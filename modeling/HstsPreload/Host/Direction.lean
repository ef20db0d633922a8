import HstsPreload.Unicode.Bidi

/-!
The direction rule for host names. Once any label holds a right-to-left character, every label must
read in one direction: what it may hold depends on its first character.
-/

namespace HstsPreload.Host

open HstsPreload.Unicode

/-- The classes of right-to-left characters. -/
def ofRightToLeft : BidiClass → Bool
  | .r | .al | .an => true
  | _ => false

/-- Whether a character makes the whole name subject to the rule. -/
def isRightToLeft (c : Char) : Bool :=
  ofRightToLeft (bidiClass c)

/-- What a left-to-right label may hold. -/
def inLeftToRight : BidiClass → Bool
  | .l | .en | .es | .cs | .et | .on | .bn | .nsm => true
  | _ => false

/-- What a right-to-left label may hold. -/
def inRightToLeft : BidiClass → Bool
  | .r | .al | .an | .en | .es | .cs | .et | .on | .bn | .nsm => true
  | _ => false

/-- The classes of a label without the nonspacing marks at its end. -/
def withoutEndMarks (classes : List BidiClass) : List BidiClass :=
  (classes.reverse.dropWhile (· == .nsm)).reverse

/-- Whether a label reads in one direction; an empty label does. -/
def readsOneWay (label : List Char) : Bool :=
  let classes := label.map bidiClass
  match classes.head?, (withoutEndMarks classes).getLast? with
  | none, _ => true
  | some first, last? =>
    let last := last?.getD first
    if first == .l then
      classes.all inLeftToRight && (last == .l || last == .en)
    else if first == .r || first == .al then
      classes.all inRightToLeft && (last == .r || last == .al || last == .en || last == .an)
        && !(classes.contains .en && classes.contains .an)
    else false

end HstsPreload.Host
