import QueryWeave.Journal
import QueryWeave.Request

namespace QueryWeave

/-- What has to be in place before a fragment is applied. -/
inductive Requirement where
  | none
  | names (names : List String)
  /-- A list in which not every name is a text. -/
  | mixed (names : List Datum)
  | patch (request : Request)

namespace Requirement

def askFor (request : Request) (key : String) : Request :=
  let key := Key.parse key
  match key.kind with
  | .field => { request with fields := some (request.fieldList ++ [.name key.name]) }
  | .table => { request with tables := some (request.tableList ++ [key.name]) }
  | .group => { request with grouping := some (request.groupList ++ [.name key.name]) }
  | .order => { request with sorting := .many (request.sortList ++ [.name key.name]) }
  | .filter => { request with filters := Entries.put request.filters key.name (.bool true) }

/-- The patch that asks for a list of keys. -/
def ofNames (names : List String) : Request :=
  names.foldl askFor {}

private def appendNames (left right : List String) : List String :=
  left ++ right.filter fun name => !left.contains name

private def appendData (left right : List Datum) : List Datum :=
  left ++ right.filter fun name => !left.any (Datum.same name)

/-- Both requirements in one; a name list that meets a patch becomes a patch first. -/
def merge : Requirement → Requirement → Except Failure Requirement
  | none, right => .ok right
  | left, none => .ok left
  | names left, names right => .ok (names (appendNames left right))
  | names left, mixed right => .ok (mixed (appendData (left.map .text) right))
  | mixed left, names right => .ok (mixed (appendData left (right.map .text)))
  | mixed left, mixed right => .ok (mixed (appendData left right))
  | names left, patch right => .ok (patch ((ofNames left).update right))
  | patch left, names right => .ok (patch (left.update (ofNames right)))
  | patch left, patch right => .ok (patch (left.update right))
  | mixed _, patch _ | patch _, mixed _ => .error .noMembers

end Requirement

mutual

/-- A requirement that may still have to be asked for, given the working request. -/
inductive Prerequisite where
  | settled (requirement : Requirement)
  | dynamic (ask : Request → Answer)
  /-- Two prerequisites, at least one of them dynamic, to be merged once both are settled. -/
  | both (left right : Prerequisite)

inductive Answer where
  | failed (failure : Failure)
  /-- Nothing that could be a prerequisite; it counts as none. -/
  | unreadable (shown : String)
  | accepted (prerequisite : Prerequisite)

end

namespace Prerequisite

instance : Inhabited Prerequisite := ⟨settled .none⟩

def merge : Prerequisite → Prerequisite → Except Failure Prerequisite
  | settled .none, right => .ok right
  | left, settled .none => .ok left
  | settled left, settled right => (left.merge right).map settled
  | left, right => .ok (both left right)

end Prerequisite

mutual

def Prerequisite.resolve (request : Request) : Prerequisite → Journaled Requirement
  | .settled requirement => pure requirement
  | .dynamic ask => (ask request).resolve request
  | .both left right => do
      let first ← left.resolve request
      let second ← right.resolve request
      liftExcept (first.merge second)

def Answer.resolve (request : Request) : Answer → Journaled Requirement
  | .failed failure => throw failure
  | .unreadable shown => do
      note (.unreadablePrerequisite shown)
      pure .none
  | .accepted prerequisite => prerequisite.resolve request

end

end QueryWeave
