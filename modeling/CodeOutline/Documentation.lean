import CodeOutline.Source
import CodeOutline.Text.Search

set_option autoImplicit false

namespace CodeOutline

def Node.isComment (node : Node) : Bool :=
  Text.contains node.kind "comment"

def Cursor.isComment (cursor : Cursor) : Bool :=
  cursor.node.isComment

namespace Source

-- The last row with text of the node; a line feed at its very end does not count.
def bottomRow (source : Source) (node : Node) : Nat :=
  let endRow := source.row node.stop
  if source.column node.stop = 0 ∧ source.row node.start < endRow then endRow - 1 else endRow

-- Does the comment share its first row with the end of the sibling just before it? Another comment
-- there does not count.
def followsCode (source : Source) (comment : Node) (before : List Node) : Bool :=
  match before with
  | [] => false
  | previous :: _ => !previous.isComment && source.bottomRow previous == source.row comment.start

def reaches (source : Source) (comment : Node) (boundary : Nat) : Bool :=
  boundary ≤ source.bottomRow comment + 1

-- The comments attached to what begins on the row `boundary`, nearest first, among the siblings
-- before it. Unnamed siblings neither belong to the run nor end it.
def commentRun (source : Source) (boundary : Nat) : List Node → List Node
  | [] => []
  | sibling :: before =>
      if !sibling.named then commentRun source boundary before
      else if sibling.isComment && source.reaches sibling boundary && !source.followsCode sibling before then
        sibling :: commentRun source (source.row sibling.start) before
      else []

def documentation? (source : Source) (cursor : Cursor) : Option String :=
  match source.commentRun (source.row cursor.start) cursor.before with
  | [] => none
  | run => some (String.intercalate "\n" (run.reverse.map fun comment => Text.trim (source.nodeText comment)))

end Source

end CodeOutline
