import QueryDispatch.Net.NameCharacter
import QueryDispatch.Net.Punycode
import QueryDispatch.Text.CharacterKind
import QueryDispatch.Text.Composition

/-! # Domain names

  Names of hosts, label by label. A name is read in its own letters or with
  labels in ASCII that stand for others. Either way a label has to be in the
  form in which names are compared, must not begin with a mark, may hold
  invisible joiners only where they matter, and must not mix directions when
  the name is written from right to left.
-/

namespace QueryDispatch.DomainName

/-- The labels of a name. -/
def labels (name : List Char) : List (List Char) := Text.splitAt '.' name

/-- The characters in ASCII that no name has: blanks, controls, and those that have a meaning in
    addresses. -/
def isForbidden (c : Char) : Bool :=
  c.toNat ≤ 0x20 || c.toNat == 0x7F || "%#/:<>?@[\\]^|".toList.contains c

/-- Whether a text is all ASCII. -/
def isAscii (s : List Char) : Bool := s.all (·.toNat < 0x80)

/-! ### The parts of a label -/

/-- How a character of a name joins its neighbours. -/
def joining (c : Char) : Text.Joining := (Text.CharacterKind.of c).joining

/-- Whether the next character that is not passed over joins in one of two ways. -/
def meets (way : Text.Joining) (s : List Char) : Bool :=
  match s.dropWhile fun c => joining c == .transparent with
  | c :: _ => joining c == way || joining c == .both
  | [] => false

/-- Whether the joiners in a label stand where they matter: behind a consonant that lost its vowel,
    or, for the one that keeps letters apart, between letters that would join. `before` is what
    stands in front, the last character first. -/
def joinersFit (before : List Char) : List Char → Bool
  | [] => true
  | c :: rest =>
    let fits :=
      if c.toNat = 0x200C ∨ c.toNat = 0x200D then
        (before.head?.any fun b => Text.combiningClass b == Text.viramaClass) ||
          (c.toNat == 0x200C && meets .following before && meets .preceding rest)
      else true
    fits && joinersFit (c :: before) rest

/-- The longest label beyond ASCII. -/
def maxLength : Nat := 1000

/-- Whether a label in its own letters can be part of a name. -/
def isLabel (label : List Char) : Bool :=
  !label.any isForbidden && !(label.head?.any fun c => (Text.CharacterKind.of c).isMark) &&
    joinersFit [] label && (isAscii label || label.length ≤ maxLength)

/-! ### Labels in ASCII that stand for others -/

/-- What begins a label in ASCII that stands for another. -/
def mark : List Char := ['x', 'n', '-', '-']

/-- The longest text behind the mark. -/
def maxEncoded : Nat := 2000

/-- Whether a label is in the form in which names are compared. -/
def isForm (label : List Char) : Bool :=
  (label.all fun c => nameForm? c == some [c]) && Text.compose label == label

/-- A label in its own letters, if it can be part of a name. -/
def readLabel? (label : List Char) : Option (List Char) :=
  match Text.after? mark label with
  | none => if isLabel label then some label else none
  | some encoded =>
    if !isAscii encoded || encoded.getLast? == some '-' || maxEncoded < encoded.length then none
    else match Punycode.decode? encoded with
      | some decoded =>
        if !decoded.isEmpty && isForm decoded && isLabel decoded then some decoded else none
      | none => none

/-! ### Directions -/

/-- The direction of a character. -/
def direction (c : Char) : Text.Direction := (Text.CharacterKind.of c).direction

/-- Whether a character makes its name one that is written from right to left. -/
def isRightToLeft (c : Char) : Bool :=
  direction c == .rightToLeft || direction c == .arabicNumber

/-- Whether a label has one direction: it begins with a letter, ends with a letter or digit, marks
    aside, and holds nothing of the other direction, nor digits of two kinds. -/
def hasOneDirection (label : List Char) : Bool :=
  let last := (label.reverse.find? fun c => direction c != .mark).map direction
  match label.head?.map direction with
  | none => true
  | some .leftToRight =>
    (last == some .leftToRight || last == some .europeanNumber) && !label.any isRightToLeft
  | some .rightToLeft =>
    (last == some .rightToLeft || last == some .arabicNumber || last == some .europeanNumber) &&
      !(label.any fun c => direction c == .leftToRight) &&
      !((label.any fun c => direction c == .arabicNumber) &&
        label.any fun c => direction c == .europeanNumber)
  | some _ => false

/-! ### Names -/

/-- The form of a name in which names are compared: its characters replaced by what they stand for,
    and composed. -/
def form? (name : List Char) : Option (List Char) :=
  (name.mapM nameForm?).map fun parts => Text.compose parts.flatten

/-- Reads a name. Nothing may be left of it when all its characters stand for nothing. -/
def read? (name : List Char) : Option (List Char) := do
  let name ← form? name
  let own ← (labels name).mapM readLabel?
  if own.any (·.any isRightToLeft) && !own.all hasOneDirection then none else some name

end QueryDispatch.DomainName
