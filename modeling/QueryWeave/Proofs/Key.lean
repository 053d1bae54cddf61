import QueryWeave.Key
import Mathlib.Data.List.TakeWhile

namespace QueryWeave

theorem Kind.exists_word_of_ne_filter {kind : Kind} (h : kind ≠ .filter) :
    ∃ word, kind.word? = some word ∧ ofWord? word = some kind ∧
      ∀ letter ∈ word, (letter != ':') = true := by
  cases kind with
  | filter => exact absurd rfl h
  | field => exact ⟨_, rfl, by decide, List.all_eq_true.mp rfl⟩
  | table => exact ⟨_, rfl, by decide, List.all_eq_true.mp rfl⟩
  | group => exact ⟨_, rfl, by decide, List.all_eq_true.mp rfl⟩
  | order => exact ⟨_, rfl, by decide, List.all_eq_true.mp rfl⟩

namespace Key

/-- Only the name of a filter can be read as something else. -/
theorem parse_render {kind : Kind} (h : kind ≠ .filter) (name : String) :
    parse (render ⟨kind, name⟩) = ⟨kind, name⟩ := by
  obtain ⟨word, hword, hkind, hplain⟩ := Kind.exists_word_of_ne_filter h
  have htext : (render ⟨kind, name⟩).toList = word ++ ':' :: name.toList := by
    rw [render, hword, String.toList_ofList]
  have hfront : (render ⟨kind, name⟩).toList.takeWhile (· != ':') = word := by
    rw [htext, List.takeWhile_append_of_pos hplain]
    simp
  have hrest : (render ⟨kind, name⟩).toList.dropWhile (· != ':') = ':' :: name.toList := by
    rw [htext, List.dropWhile_append_of_pos hplain]
    simp
  rw [parse, hrest]
  dsimp only
  rw [hfront, hkind]
  dsimp only
  rw [String.ofList_toList]

theorem parse_render_of_not_mem {name : String} (h : ':' ∉ name.toList) (kind : Kind) :
    parse (render ⟨kind, name⟩) = ⟨kind, name⟩ := by
  by_cases hfilter : kind = .filter
  · subst hfilter
    have hrest : name.toList.dropWhile (· != ':') = [] := by
      rw [List.dropWhile_eq_nil_iff]
      intro letter hletter
      exact bne_iff_ne.mpr fun heq => h (heq ▸ hletter)
    rw [render_filter, parse, hrest]
  · exact parse_render hfilter name

theorem render_injective (kind : Kind) : Function.Injective fun name => render ⟨kind, name⟩ := by
  intro first second h
  by_cases hfilter : kind = .filter
  · subst hfilter
    exact h
  · have hparsed := congrArg parse h
    dsimp only at hparsed
    rw [parse_render hfilter, parse_render hfilter] at hparsed
    exact congrArg name hparsed

end Key

end QueryWeave
