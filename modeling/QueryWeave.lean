import QueryWeave.Entries
import QueryWeave.Text.Character
import QueryWeave.Text.Escape
import QueryWeave.Text.Identifier
import QueryWeave.Text.Printable
import QueryWeave.Text.Letter
import QueryWeave.Text.Pattern
import QueryWeave.Datum.Decimal
import QueryWeave.Datum.Numeral
import QueryWeave.Datum
import QueryWeave.Datum.Style
import QueryWeave.Datum.Text
import QueryWeave.Tree.Clause
import QueryWeave.Tree.Operator
import QueryWeave.Tree
import QueryWeave.Tree.Placeholder
import QueryWeave.Datum.Read
import QueryWeave.Tree.Pattern
import QueryWeave.Tree.Merge
import QueryWeave.Tree.Encode
import QueryWeave.Tree.Nesting
import QueryWeave.Tree.Decode
import QueryWeave.Key
import QueryWeave.Request
import QueryWeave.Request.Encode
import QueryWeave.Request.Decode
import QueryWeave.Failure
import QueryWeave.Journal
import QueryWeave.Prerequisite
import QueryWeave.Shortcut.Catalogue
import QueryWeave.Draft
import QueryWeave.Shortcut.Operator
import QueryWeave.Builder
import QueryWeave.Script
import QueryWeave.Fragment
import QueryWeave.Registry
import QueryWeave.Closure
import QueryWeave.Options
import QueryWeave.Composer.Clauses
import QueryWeave.Shortcut.Descriptor
import QueryWeave.Shortcut.Translate
import QueryWeave.Shortcut.Handlers
import QueryWeave.Composer
import QueryWeave.Format.Member
import QueryWeave.Format
import QueryWeave.Format.Token
import QueryWeave.Format.Parser
import QueryWeave.Proofs.Action
import QueryWeave.Proofs.Action.Outcome
import QueryWeave.Proofs.Key
import QueryWeave.Proofs.Registry
import QueryWeave.Proofs.Shortcut.Combo
import QueryWeave.Proofs.Registration
import QueryWeave.Proofs.Requirement.Graph
import QueryWeave.Proofs.Closure.Trail
import QueryWeave.Proofs.Closure.Route
import QueryWeave.Proofs.Closure.Failure
import QueryWeave.Proofs.Request.Keys
import QueryWeave.Proofs.Requirement.Merge
import QueryWeave.Proofs.Requirement.Resolve
import QueryWeave.Proofs.Request.Counts
import QueryWeave.Proofs.Request.Patched
import QueryWeave.Proofs.Datum.Merge
import QueryWeave.Proofs.Request.Merged
import QueryWeave.Proofs.Request.Repeated
import QueryWeave.Proofs.Request.Rebound
import QueryWeave.Proofs.Request.RoundTrip
import QueryWeave.Proofs.Closure.WriteBack
import QueryWeave.Proofs.Closure.Final
import QueryWeave.Proofs.Closure.Reach
import QueryWeave.Proofs.Closure.Patches
import QueryWeave.Proofs.Closure.Causes
import QueryWeave.Proofs.Closure.Once
import QueryWeave.Proofs.Closure.Order
import QueryWeave.Proofs.Closure.Rebound
import QueryWeave.Proofs.Closure.Settles
import QueryWeave.Proofs.Closure.Covers
import QueryWeave.Proofs.Closure.Blended
import QueryWeave.Proofs.Tree.Merge
import QueryWeave.Proofs.Tree.Series
import QueryWeave.Proofs.Tree.Condition
import QueryWeave.Proofs.Tree.Tables
import QueryWeave.Proofs.Tree.Regroup
import QueryWeave.Proofs.Tree.Clause
import QueryWeave.Proofs.Datum.Read
import QueryWeave.Proofs.Tree.Node
import QueryWeave.Proofs.Tree.RoundTrip
import QueryWeave.Proofs.Tree.Walk
import QueryWeave.Proofs.Tree.Recast
import QueryWeave.Proofs.Tree.Escape
import QueryWeave.Proofs.Tree.Escaped
import QueryWeave.Proofs.Tree.Scan
import QueryWeave.Proofs.Tree.Fill
import QueryWeave.Proofs.Tree.Outline
import QueryWeave.Proofs.Tree.Unseen
import QueryWeave.Proofs.Tree.Erased
import QueryWeave.Proofs.Tree.RecastMerge
import QueryWeave.Proofs.Composer.Parts
import QueryWeave.Proofs.Composer.Stages
import QueryWeave.Proofs.Composer.Order
import QueryWeave.Proofs.Composer.Applied
import QueryWeave.Proofs.Composer.Assembly
import QueryWeave.Proofs.Composer.Conditions
import QueryWeave.Proofs.Composer.Failure
import QueryWeave.Proofs.Composer.Grouping
import QueryWeave.Proofs.Composer.Lists
import QueryWeave.Proofs.Composer.Recast
import QueryWeave.Proofs.Composer.Escaped
import QueryWeave.Proofs.Composer.Rebound
import QueryWeave.Proofs.Composer.Relimited
import QueryWeave.Proofs.Composer.Limit
import QueryWeave.Proofs.Composer.Prerequisites
import QueryWeave.Proofs.Tree.Origins
import QueryWeave.Proofs.Composer.GroupField
import QueryWeave.Proofs.Action.Paired
import QueryWeave.Proofs.Closure.Pursuit
import QueryWeave.Proofs.Closure.Shown
import QueryWeave.Proofs.Composer.Shown
import QueryWeave.Proofs.Shortcut.Inquiry
import QueryWeave.Proofs.Shortcut.Listed
import QueryWeave.Proofs.Shortcut.Posting
import QueryWeave.Proofs.Shortcut.Accounts
import QueryWeave.Proofs.Shortcut.Turn
import QueryWeave.Proofs.Shortcut.Traced
import QueryWeave.Proofs.Shortcut.Spelling
import QueryWeave.Proofs.Tree.Gather
import QueryWeave.Proofs.Closure.Shuffled
import QueryWeave.Proofs.Closure.Walks
import QueryWeave.Proofs.Composer.Sequence
import QueryWeave.Proofs.Composer.SharedPatch
import QueryWeave.Proofs.Fragment.Binding
import QueryWeave.Proofs.Text.Pattern
import QueryWeave.Proofs.Tree.Write
import QueryWeave.Proofs.Shortcut.Multiple
import QueryWeave.Proofs.Fragment.Copy
import QueryWeave.Proofs.Registry.Shelf
import QueryWeave.Proofs.Shortcut.Kept
import QueryWeave.Proofs.Session
