import CodeMentor.Text.Composed
import CodeMentor.Text.Pieces
import CodeMentor.Text.Punycode
import CodeMentor.Text.Unicode.Direction
import CodeMentor.Text.Unicode.Joining
import CodeMentor.Text.Unicode.NameMapping

/-!
# Domain names

The name of a host may be given in any script. Its characters are mapped to the forms that names are
registered under, every label is checked, and labels that are not plain are written in plain letters
behind a mark. Names are lists of code points here.
-/

namespace CodeMentor.DomainName

open CodeMentor.Text

/-- The code points that a code point of a name stands for: none if it is dropped, itself if it is
kept. Nothing comes of one that is refused. -/
def mapped? (point : Nat) : Option (List Nat) :=
  if point < 0x80 then some [(Char.ofNat point).toLower.toNat]
  else if Unicode.refused.has point then none
  else if Unicode.dropped.has point then some []
  else
    let shifted := Unicode.shifts.findSome? fun
      | [first, step, count, target] =>
        let distance := point - first
        if first ≤ point ∧ distance % step = 0 ∧ distance / step < count then
          some [target + distance]
        else none
      | _ => none
    let expanded := Unicode.expansions.findSome? fun
      | source :: target => if source = point then some target else none
      | [] => none
    some ((shifted <|> expanded).getD [point])

def isKept (point : Nat) : Bool :=
  mapped? point == some [point]

/-- What a label starts with that is not plain itself. -/
def mark : List Nat :=
  "xn--".toList.map Char.toNat

/-- Whether joining letters stand on both sides: the letters before, from the last to the first, and
the letters after, without the marks that joining passes over. -/
def joinsAround (before after : List Nat) : Bool :=
  let skip (points : List Nat) := (points.dropWhile Unicode.joinsThrough.has).head?
  (skip before).any (fun p => Unicode.joinsNext.has p || Unicode.joinsBoth.has p) &&
    (skip after).any fun p => Unicode.joinsPrevious.has p || Unicode.joinsBoth.has p

/-- Whether every joiner in a label has a reason: it follows a sign that silences a vowel, or it
parts letters that would join. `before` holds what was read, from the last to the first. -/
def joinersFit (before : List Nat) : List Nat → Bool
  | [] => true
  | point :: rest =>
    let silenced := before.head?.any (combiningClass · == 9)
    (if point = 0x200D then silenced
      else if point = 0x200C then silenced || joinsAround before rest
      else true) && joinersFit (point :: before) rest

/-- Whether a label that is written in full may stand in a name. -/
def isValidLabel (label : List Nat) : Bool :=
  !label.head?.any Unicode.mark.has && joinersFit [] label

/-- The full form of a label. One that is marked must be the plain form of a text in several scripts
that needs no mapping. -/
def fullLabel? (label : List Nat) : Option (List Nat) :=
  match after? mark label with
  | none => if isValidLabel label then some label else none
  | some plain => do
    if plain.any (0x80 ≤ ·) then none
    else
      let full ← Punycode.decode? (plain.map Char.ofNat)
      if full.any (0x80 ≤ ·) && full.all isKept && composed full == full && isValidLabel full then
        return full
      else none

def plainLabel (label : List Nat) : List Char :=
  if label.all (· < 0x80) then label.map Char.ofNat
  else mark.map Char.ofNat ++ Punycode.encode label

/-- Whether a name with the label is written from right to left in part. -/
def hasRightward (label : List Nat) : Bool :=
  label.any fun p => Unicode.rightward.has p || Unicode.arabicNumber.has p

def isLeftward (point : Nat) : Bool :=
  !(Unicode.rightward.has point || Unicode.arabicNumber.has point ||
    Unicode.europeanNumber.has point || Unicode.nonspacing.has point || Unicode.neutral.has point)

/-- Whether a label has one direction, so that it can be told from its neighbours in a name that
mixes directions. -/
def hasOneDirection (label : List Nat) : Bool :=
  let last := (dropEndWhile Unicode.nonspacing.has label).getLast?
  match label.head? with
  | none => true
  | some first =>
    if Unicode.rightward.has first then
      !label.any isLeftward &&
        last.any (fun p => Unicode.rightward.has p || Unicode.europeanNumber.has p ||
          Unicode.arabicNumber.has p) &&
        !(label.any Unicode.europeanNumber.has && label.any Unicode.arabicNumber.has)
    else
      isLeftward first && !hasRightward label &&
        last.any fun p => isLeftward p || Unicode.europeanNumber.has p

/-- The plain form of a name. -/
def plain? (name : List Nat) : Option (List Char) := do
  let points := composed (← name.mapM mapped?).flatten
  let labels ← (pieces (· == '.'.toNat) points).mapM fullLabel?
  if labels.any hasRightward && !labels.all hasOneDirection then none
  else return ['.'].intercalate (labels.map plainLabel)

end CodeMentor.DomainName
