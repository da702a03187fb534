import QueryDispatch.Encoding.Base64
import QueryDispatch.Text.Blank
import QueryDispatch.Text.Utf8

/-! # Armored text

  Keys and certificates are kept as base64 between a line that begins a
  section and one that ends it, both with the section's label. A bundle holds
  any number of sections with other text between them; it is read leniently. A
  text for a single section is read strictly.
-/

namespace QueryDispatch.Armor

/-- The bytes of an ASCII text. -/
def ascii (s : String) : List UInt8 := Text.utf8 s.toList

/-- What begins the line in front of a section. -/
def beginMark : List UInt8 := ascii "-----BEGIN "

/-- The line behind a section. -/
def endLine (label : List UInt8) : List UInt8 := ascii "-----END " ++ label ++ ascii "-----"

/-- What stands behind `lead`, if a text starts with it. -/
def after? (lead s : List UInt8) : Option (List UInt8) :=
  if lead.isPrefixOf s then some (s.drop lead.length) else none

/-! ### Bundles -/

/-- What a section holds, as far as it is known here. -/
inductive SectionKind where
  | certificate
  | publicKey
  | privateKey
  | rsaPrivateKey
  | ecPrivateKey
  | revocationList
  | certificateRequest
  | helloConfig
  deriving DecidableEq, Repr

namespace SectionKind

/-- All kinds. -/
def all : List SectionKind :=
  [.certificate, .publicKey, .privateKey, .rsaPrivateKey, .ecPrivateKey, .revocationList,
    .certificateRequest, .helloConfig]

/-- The label of a kind. -/
def label : SectionKind → String
  | certificate => "CERTIFICATE"
  | publicKey => "PUBLIC KEY"
  | privateKey => "PRIVATE KEY"
  | rsaPrivateKey => "RSA PRIVATE KEY"
  | ecPrivateKey => "EC PRIVATE KEY"
  | revocationList => "X509 CRL"
  | certificateRequest => "CERTIFICATE REQUEST"
  | helloConfig => "ECHCONFIG"

/-- The kind of a label. -/
def ofLabel? (label : List UInt8) : Option SectionKind :=
  all.find? fun kind => ascii kind.label == label

end SectionKind

/-- A section of a bundle. -/
structure Section where
  kind : SectionKind
  bytes : List UInt8
  deriving DecidableEq

/-- The lines of a text, without their line breaks. Each of the two bytes for line breaks ends a
    line. -/
def lines (s : List UInt8) : List (List UInt8) :=
  match s with
  | [] => [[]]
  | b :: rest =>
    if b = 10 ∨ b = 13 then [] :: lines rest
    else match lines rest with
      | [] => [[b]]
      | line :: more => (b :: line) :: more

/-- The label of a line that begins a section: none for other lines, and a fault for one that does
    not end in five dashes, blanks aside. The label ends in front of the first of them. -/
def beginLabel (line : List UInt8) : Except Unit (Option (List UInt8)) :=
  match after? beginMark line with
  | none => .ok none
  | some behind =>
    let trail := (behind.reverse.takeWhile fun b => b == 45 || b == 32).reverse
    let dashes := trail.dropWhile (· != 45)
    if dashes.count 45 = 5 then .ok (some (behind.take (behind.length - dashes.length)))
    else .error ()

/-- Whether a byte counts in the body of a section. -/
def countsInBody (b : UInt8) : Bool :=
  !(b == 9 || b == 10 || b == 11 || b == 12 || b == 13 || b == 32)

/-- Reads the sections of a bundle from its lines. `current` is the section that is open, with the
    body read so far; it has to end. The body is base64 unless the label is unknown, and then the
    section is passed over. -/
def readLines (current : Option (List UInt8 × List UInt8)) :
    List (List UInt8) → Except Unit (List Section)
  | [] => if current.isSome then .error () else .ok []
  | line :: rest =>
    match beginLabel line with
    | .error _ => .error ()
    | .ok (some label) => readLines (some (label, (current.map (·.2)).getD [])) rest
    | .ok none =>
      match current with
      | none => readLines none rest
      | some (label, body) =>
        if (after? (endLine label) line).isSome then
          match SectionKind.ofLabel? label with
          | none => readLines none rest
          | some kind =>
            match Base64.decodeLoose? body with
            | some bytes => do
              let more ← readLines none rest
              return ⟨kind, bytes⟩ :: more
            | none => .error ()
        else readLines (some (label, body ++ line.filter countsInBody)) rest

/-- The sections of a bundle, in order. -/
def sections (bundle : List UInt8) : Except Unit (List Section) := readLines none (lines bundle)

/-! ### Single sections -/

/-- What stands behind the line break that a text begins with. -/
def afterBreak? : List UInt8 → Option (List UInt8)
  | 13 :: 10 :: rest => some rest
  | 13 :: rest => some rest
  | 10 :: rest => some rest
  | _ => none

theorem length_afterBreak? {s rest : List UInt8} (h : afterBreak? s = some rest) :
    rest.length < s.length := by
  unfold afterBreak? at h
  split at h
  · cases h; simp only [List.length_cons]; omega
  · cases h; simp only [List.length_cons]; omega
  · cases h; simp only [List.length_cons]; omega
  · cases h

/-- What stands in front of the line break that a text ends with. -/
def beforeBreak? (s : List UInt8) : Option (List UInt8) :=
  match s.reverse with
  | 10 :: 13 :: rest => some rest.reverse
  | 10 :: rest => some rest.reverse
  | 13 :: rest => some rest.reverse
  | _ => none

/-- The text from the first line on that begins a section. What stands before it must not hold a
    zero byte. -/
def fromBegin? (s : List UInt8) : Option (List UInt8) :=
  let rec go : List UInt8 → Option (List UInt8)
    | [] => none
    | b :: rest =>
      if b = 0 then none
      else if b = 10 ∧ beginMark.isPrefixOf rest then some rest
      else go rest
  if beginMark.isPrefixOf s then some s else go s

/-- The length of the lines of a single section. -/
def width : Nat := 64

/-- The lines of the body of a single section: all have the same length but the last, which may be
    shorter, and behind which one more line break may stand. -/
def bodyLines? (s : List UInt8) : Option (List (List UInt8)) :=
  if s.isEmpty then some []
  else if s.length ≤ width then some [(beforeBreak? s).getD s]
  else
    match _h : afterBreak? (s.drop width) with
    | none => none
    | some rest => (bodyLines? rest).map (s.take width :: ·)
termination_by s.length
decreasing_by
  have := length_afterBreak? (by assumption)
  simp only [List.length_drop] at this
  omega

/-- The base64 text of the body. When it ends with an empty line, the line before that has no
    padding. -/
def bodyText? (s : List UInt8) : Option (List UInt8) := do
  let lines ← bodyLines? s
  let text := lines.flatten
  if lines.getLast? = some [] ∧ text.contains Base64.pad then none else return text

/-- Reads a text that is one section with a given label, with any text in front. -/
def single? (label : String) (s : List UInt8) : Option (List UInt8) := do
  let s ← fromBegin? s
  let behind ← after? (beginMark ++ ascii label ++ ascii "-----") s
  let body ← afterBreak? behind
  let body := (beforeBreak? body).getD body
  let reversed ← after? (endLine (ascii label)).reverse body.reverse
  let text ← bodyText? (← beforeBreak? reversed.reverse)
  (Base64.decode text).toOption

end QueryDispatch.Armor
