import HstsPreload.Unicode.Combining
import HstsPreload.Unicode.Joining

/-!
Zero width joiners in host names: both follow a virama, and the non-joiner may also stand between
letters that would otherwise join.
-/

namespace HstsPreload.Host

open HstsPreload.Unicode

/-- The zero width non-joiner. -/
def nonJoiner : Char := .ofNat 0x200c

/-- The zero width joiner. -/
def joiner : Char := .ofNat 0x200d

/-- Whether the nearest character that joining does not look through satisfies `p`. -/
def nearestJoins (p : JoiningType → Bool) : List Char → Bool
  | [] => false
  | c :: rest =>
    match joiningType c with
    | .transparent => nearestJoins p rest
    | t => p t

/-- Whether a label joins up to its right neighbour. -/
def joinsRight : JoiningType → Bool
  | .left | .dual => true
  | _ => false

/-- Whether a label joins up to its left neighbour. -/
def joinsLeft : JoiningType → Bool
  | .right | .dual => true
  | _ => false

/-- Whether every joiner stands where it may; `before` holds the characters already passed, last
first. -/
def joinersStand (before : List Char) : List Char → Bool
  | [] => true
  | c :: rest =>
    let afterVirama : Bool :=
      match before with
      | [] => false
      | d :: _ => isVirama d
    let stands : Bool :=
      if c = joiner then afterVirama
      else if c = nonJoiner then
        afterVirama || (nearestJoins joinsRight before && nearestJoins joinsLeft rest)
      else true
    stands && joinersStand (c :: before) rest

end HstsPreload.Host
