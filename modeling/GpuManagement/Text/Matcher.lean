import GpuManagement.Text.DecimalDigit
import GpuManagement.Text.Pattern

/-!
# Matching names

The library of regular expressions that runs here. It reads the expressions that patterns become,
texts that stand for themselves and groups of digits between `^` and `$`, and refuses all others;
like the library it stands for it also refuses an expression that is too large, which here is one
with very many groups.

Whether a name fits is worked out from the end of the expression: `fitMarks` keeps for one rest of
the expression a mark at every place of the name, and each piece of the expression makes one such
row from the row of the rest after it. So the work grows with the product of the two lengths,
however many groups there are. `fits_char` and `fits_digits` say what the marks mean.
-/

namespace GpuManagement.Text

/-- What an expression asks for at one place of a name. -/
inductive Piece where
  | char (c : Char)
  | digits
  deriving DecidableEq, Repr

namespace Matcher

/-! ## Reading expressions -/

/-- The characters that mean something else than themselves in an expression. -/
def special : List Char :=
  ['\\', '.', '+', '*', '?', '(', ')', '|', '[', ']', '\x7b', '\x7d', '^', '$', '#', '&', '-', '~']

def escape (cs : List Char) : List Char :=
  cs.flatMap fun c => if special.contains c then ['\\', c] else [c]

/-- The pieces of an expression up to the `$` at its end. -/
def pieces? : List Char → Option (List Piece)
  | [] => none
  | c :: cs =>
    if c = '$' then if cs = [] then some [] else none
    else if c = '(' then
      match cs with
      | '\\' :: 'd' :: '+' :: ')' :: rest => (pieces? rest).map (.digits :: ·)
      | _ => none
    else if c = '\\' then
      match cs with
      | d :: rest => if special.contains d then (pieces? rest).map (.char d :: ·) else none
      | [] => none
    else if special.contains c then none
    else (pieces? cs).map (.char c :: ·)

/-- The most groups of an expression that is not too large. -/
def maxGroups : Nat := 2000

def compile? : List Char → Option (List Piece)
  | '^' :: cs => (pieces? cs).filter fun pieces => pieces.count .digits ≤ maxGroups
  | _ => none

/-! ## Fitting

A row of marks has one mark for each rest of a name, the whole name first and the empty rest last.
-/

/-- The row that marks the empty rest only. -/
def endMark : List Char → List Bool
  | [] => [true]
  | _ :: cs => false :: endMark cs

/-- The row that marks where `c` stands right before a mark of another row. -/
def charMarks (c : Char) : List Char → List Bool → List Bool
  | d :: ds, _ :: marks => (d == c && marks.headD false) :: charMarks c ds marks
  | _, _ => [false]

/-- The row that marks where a run of digits leads to a mark of another row. -/
def runMarks : List Char → List Bool → List Bool
  | d :: ds, _ :: marks =>
    let later := runMarks ds marks
    ((marks.headD false || later.headD false) && isDecimalDigit d) :: later
  | _, _ => [false]

/-- The row that marks where a name fits an expression to its end. -/
def fitMarks (name : List Char) : List Piece → List Bool
  | [] => endMark name
  | .char c :: pieces => charMarks c name (fitMarks name pieces)
  | .digits :: pieces => runMarks name (fitMarks name pieces)

def fits (pieces : List Piece) (name : List Char) : Bool := (fitMarks name pieces).headD false

/-- The longest run of digits at the start of a name that leads to a mark. -/
def longestRun : List Char → List Bool → Option (List Char)
  | d :: ds, _ :: marks =>
    if isDecimalDigit d then
      match longestRun ds marks with
      | some run => some (d :: run)
      | none => if marks.headD false then some [d] else none
    else none
  | _, _ => none

/-- The run of digits that the first group takes, when the name fits. -/
def firstRun? : List Piece → List Char → Option (List Char)
  | [], _ => none
  | .digits :: pieces, name => longestRun name (fitMarks name pieces)
  | .char _ :: _, [] => none
  | .char c :: pieces, d :: ds => if d = c then firstRun? pieces ds else none

/-! ## What the marks mean -/

/-- The marks of a name after its first one are those of the name without its first character. -/
theorem fitMarks_cons (pieces : List Piece) (d : Char) (ds : List Char) :
    fitMarks (d :: ds) pieces = fits pieces (d :: ds) :: fitMarks ds pieces := by
  unfold fits
  induction pieces with
  | nil => rfl
  | cons piece pieces ih =>
    cases piece with
    | char c | digits =>
      rw [fitMarks, fitMarks, ih]
      rfl

theorem fits_nil (name : List Char) : fits [] name = name.isEmpty := by
  cases name <;> rfl

theorem fits_char (c : Char) (pieces : List Piece) (d : Char) (ds : List Char) :
    fits (.char c :: pieces) (d :: ds) = (d == c && fits pieces ds) := by
  unfold fits
  rw [fitMarks, fitMarks_cons, charMarks]
  rfl

/-- A group takes one digit or a digit and a longer run. -/
theorem fits_digits (pieces : List Piece) (d : Char) (ds : List Char) :
    fits (.digits :: pieces) (d :: ds) =
      ((fits pieces ds || fits (.digits :: pieces) ds) && isDecimalDigit d) := by
  unfold fits
  rw [fitMarks, fitMarks, fitMarks_cons, runMarks]
  rfl

/-- No piece of an expression stands for nothing. -/
theorem fits_cons_nil (piece : Piece) (pieces : List Piece) :
    fits (piece :: pieces) [] = false := by
  unfold fits
  cases piece <;> rw [fitMarks] <;> cases fitMarks [] pieces <;> rfl

end Matcher

/-- The library of regular expressions that runs here. -/
def ExpressionLibrary.builtIn : ExpressionLibrary where
  Expression := List Piece
  escape := Matcher.escape
  compile? := Matcher.compile?
  firstGroup? := Matcher.firstRun?

end GpuManagement.Text
