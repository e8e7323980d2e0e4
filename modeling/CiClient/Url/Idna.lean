import CiClient.Url.Idna.Mapping
import CiClient.Url.Idna.Punycode
import CiClient.Text.Unicode.Normalization
import CiClient.Text.Unicode.Bidi
import CiClient.Text.Unicode.Joining
import CiClient.Text.Unicode.Category
/-!
# International domain names

The ASCII form of a domain, by Unicode IDNA Compatibility Processing: nontransitional, with the
checks of joiners and of bidirectional text, hyphens allowed anywhere, no length limits, and the
characters that a URL host may not hold refused.

1. Every character is replaced as its status says: mapped characters by their mapping, ignored
   ones by nothing; a disallowed character fails the domain, and so does any character of the
   result that a host may not hold.
2. The result is put in Normalization Form C and cut into labels at each `.`.
3. A label that starts with `xn--` must be ASCII and the Punycode of a label that holds some
   character outside ASCII; it stands for that label.
4. Every label, as it stands, must be valid: a decoded one in Normalization Form C; none starting
   with `xn--` again, holding a `.`, or starting with a combining mark; every character valid or
   a deviation; and the joiners where they may stand.
5. If some label holds a right-to-left character or an Arabic digit, every label must satisfy
   the rule for bidirectional labels.
6. Labels are written back in ASCII: an ASCII label as it is, any other as `xn--` and its
   Punycode.
-/

namespace CiClient.Url

open CiClient.Text.Unicode

/-- The ASCII characters a host may not hold: controls, space, DEL and
`% # / : < > ? @ [ \ ] ^ |`. -/
def isForbiddenInDomain (c : Char) : Bool :=
  c.toNat ≤ 0x20 || c.toNat = 0x7F || "%#/:<>?@[\\]^|".toList.contains c

/-- What one character becomes: `none` when it is disallowed. -/
def mapDomainChar (c : Char) : Option (List Char) :=
  match idnaStatus c with
  | .valid | .deviation => some [c]
  | .mapped replacement => some replacement
  | .ignored => some []
  | .disallowed => none

/-- Whether a character may stand in a label: it is valid or a deviation. -/
def isLabelChar (c : Char) : Bool :=
  match idnaStatus c with
  | .valid | .deviation => true
  | _ => false

/-- Whether a character is a virama: its canonical combining class is 9. -/
def isVirama (c : Char) : Bool := combiningClass c.toNat = 9

/-- Whether, past any transparent characters, the nearest of some characters has one of the
given joining types. -/
def joinsTowards (types : List JoiningType) (cs : List Char) : Bool :=
  match cs.dropWhile (fun c => joiningType c = .transparent) with
  | c :: _ => types.contains (joiningType c)
  | [] => false

/-- Whether the joiners of a label stand where they may. A zero width joiner must follow a
virama. A zero width non-joiner must follow a virama, or stand between a character that joins
to the right and one that joins to the left, with only transparent characters between. `before`
holds the characters passed, nearest first. -/
def joinersAllowed (before : List Char) : List Char → Bool
  | [] => true
  | c :: rest =>
    let afterVirama := match before with
      | b :: _ => isVirama b
      | [] => false
    let ok :=
      if c = '\u200C' then
        afterVirama ||
          (joinsTowards [.leftJoining, .dualJoining] before &&
            joinsTowards [.rightJoining, .dualJoining] rest)
      else if c = '\u200D' then afterVirama
      else true
    ok && joinersAllowed (c :: before) rest

/-- Whether a character is right to left, or an Arabic digit: what makes a domain bidirectional. -/
def isBidiChar (c : Char) : Bool :=
  let k := bidiClass c
  k = .rightToLeft || k = .arabicLetter || k = .arabicNumber

/-- The classes a label that starts left to right may hold after its first character. -/
def leftToRightClasses : List BidiClass :=
  [.leftToRight, .europeanNumber, .europeanSeparator, .commonSeparator, .europeanTerminator,
    .otherNeutral, .boundaryNeutral, .nonspacingMark]

/-- The classes a label that starts right to left may hold after its first character. -/
def rightToLeftClasses : List BidiClass :=
  [.rightToLeft, .arabicLetter, .arabicNumber, .europeanNumber, .europeanSeparator,
    .commonSeparator, .europeanTerminator, .otherNeutral, .boundaryNeutral, .nonspacingMark]

/-- The rule for labels of a bidirectional domain. The first character is left to right, right
to left or an Arabic letter, and decides the direction. After it come only the classes of that
direction; the last character that is not a nonspacing mark is, left to right, a left-to-right
character or a European digit, and right to left, a right-to-left character, an Arabic letter or
either kind of digit; and a right-to-left label does not hold both kinds of digit. -/
def bidiRuleHolds (label : List Char) : Bool :=
  match label.map bidiClass with
  | [] => true
  | first :: rest =>
    let body := (rest.reverse.dropWhile (· = .nonspacingMark)).reverse
    let lastIn (ks : List BidiClass) := match body.getLast? with
      | some k => ks.contains k
      | none => true
    if first = .leftToRight then
      body.all leftToRightClasses.contains && lastIn [.leftToRight, .europeanNumber]
    else if first = .rightToLeft || first = .arabicLetter then
      body.all rightToLeftClasses.contains &&
        lastIn [.rightToLeft, .arabicLetter, .europeanNumber, .arabicNumber] &&
        !(body.contains .europeanNumber && body.contains .arabicNumber)
    else false

/-- Whether a label, as it stands, is valid. A label decoded from Punycode must also be in
Normalization Form C, which any other label already is. -/
def labelValid (label : List Char) (decoded : Bool) : Bool :=
  (!decoded || nfc label == label) &&
    label.take 4 != ['x', 'n', '-', '-'] &&
    !label.contains '.' &&
    (match label.head? with
      | some c => !isMark c
      | none => true) &&
    label.all isLabelChar &&
    joinersAllowed [] label

/-- A label as it stands and its ASCII form, or `none` when it fails. -/
def convertLabel (label : List Char) : Option (List Char × String) :=
  let isAscii (cs : List Char) := cs.all (·.toNat < 128)
  if label.take 4 == ['x', 'n', '-', '-'] then
    if !isAscii label then none else
    match punyDecode (label.drop 4) with
    | none => none
    | some decoded =>
      if isAscii decoded || !labelValid decoded true then none
      else some (decoded, String.ofList label)
  else if !labelValid label false then none
  else some (label, if isAscii label then String.ofList label else "xn--" ++ punycode label)

/-- The ASCII form of a domain, or `none` when it is not a valid international domain name. -/
def domainToAscii (domain : String) : Option String := do
  let mapped ← domain.toList.mapM mapDomainChar
  let chars := mapped.flatten
  if chars.any isForbiddenInDomain then none
  let labels := (nfc chars).splitOn '.'
  let converted ← labels.mapM convertLabel
  let bidiDomain := converted.any fun (label, _) => label.any isBidiChar
  if bidiDomain && !converted.all (fun (label, _) => bidiRuleHolds label) then none
  return ".".intercalate (converted.map (·.2))

end CiClient.Url
