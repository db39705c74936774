import Bistro.Access.Address
import Bistro.Payload.Field
import Bistro.Text.Space
import Bistro.Text.Case
import Bistro.Text.Utf8
import Bistro.Text.Punycode

/-!
# Bistro — checking email addresses

An email address is checked by the rules of RFC 5321, 5322 and 6531 as mail services apply them:

* the address may be written `Name <address>`, and only the address counts;
* it splits at the first `@` outside quotes; the part before it must be a dot-atom of the
  usual characters or of international ones, and may not be quoted;
* the part after it is a host name of letters, digits, hyphens and dots (or international
  characters), with at least one dot, labels of at most 63 characters, a last character that is
  a letter, and no special-use name such as `localhost` or `test`; a bracketed IP address is not
  taken;
* the whole address takes at most 254 bytes as written, as normalised, and with its host name
  in ASCII.

A host name travels in ASCII: a label of international characters becomes `xn--` and its
Punycode, and the limits on length, the top-level domain and the special-use names apply to that
form. A refused address gives the reason, naming the offending characters. An accepted one is
normalised: its host name is lower-cased and each `xn--` label is shown in its own script.
-/

namespace Bistro

namespace Email

/-- How a character shows in a reason. -/
inductive CharKind where
  /-- Letters, numbers, punctuation and symbols. -/
  | visible
  /-- Combining marks. -/
  | mark
  /-- Space separators. -/
  | space
  /-- Line and paragraph separators. -/
  | separator
  /-- Controls, format characters and private-use characters. -/
  | other
  deriving DecidableEq, Repr

/-- Whether a code point is a combining mark. -/
def isMark (n : Nat) : Bool :=
  (0x300 ≤ n && n ≤ 0x36F) || (0x483 ≤ n && n ≤ 0x489) || (0x591 ≤ n && n ≤ 0x5BD) ||
    (0x610 ≤ n && n ≤ 0x61A) || (0x64B ≤ n && n ≤ 0x65F) || n == 0x670 ||
    (0x6D6 ≤ n && n ≤ 0x6DC) || (0x6DF ≤ n && n ≤ 0x6E4) || (0x900 ≤ n && n ≤ 0x903) ||
    (0x93A ≤ n && n ≤ 0x94F) || (0x1AB0 ≤ n && n ≤ 0x1AFF) || (0x1DC0 ≤ n && n ≤ 0x1DFF) ||
    (0x20D0 ≤ n && n ≤ 0x20FF) || (0x302A ≤ n && n ≤ 0x302F) || (0x3099 ≤ n && n ≤ 0x309A) ||
    (0xFE00 ≤ n && n ≤ 0xFE0F) || (0xFE20 ≤ n && n ≤ 0xFE2F)

/-- Whether a code point is a control, format or private-use character. -/
def isOther (n : Nat) : Bool :=
  n < 0x20 || (0x7F ≤ n && n ≤ 0x9F) || n == 0xAD || (0x600 ≤ n && n ≤ 0x605) || n == 0x61C ||
    n == 0x6DD || n == 0x70F || n == 0x180E || (0x200B ≤ n && n ≤ 0x200F) ||
    (0x202A ≤ n && n ≤ 0x202E) || (0x2060 ≤ n && n ≤ 0x2064) || (0x2066 ≤ n && n ≤ 0x206F) ||
    (0xE000 ≤ n && n ≤ 0xF8FF) || n == 0xFEFF || (0xFFF9 ≤ n && n ≤ 0xFFFB) || n == 0xFFFE ||
    n == 0xFFFF || (0xE0000 ≤ n && n ≤ 0xE007F) || 0xF0000 ≤ n

/-- The kind of a character. -/
def kind (c : Char) : CharKind :=
  let n := c.toNat
  if n == 0x20 || n == 0xA0 || n == 0x1680 || (0x2000 ≤ n && n ≤ 0x200A) || n == 0x202F ||
    n == 0x205F || n == 0x3000 then .space
  else if n == 0x2028 || n == 0x2029 then .separator
  else if isOther n then .other
  else if isMark n then .mark
  else .visible

/-- The names of the invisible characters a reason may name. -/
def charNames : List (Nat × String) :=
  [(0x20, "SPACE"), (0xA0, "NO-BREAK SPACE"), (0xAD, "SOFT HYPHEN"), (0x1680, "OGHAM SPACE MARK"),
    (0x180E, "MONGOLIAN VOWEL SEPARATOR"), (0x2000, "EN QUAD"), (0x2001, "EM QUAD"),
    (0x2002, "EN SPACE"), (0x2003, "EM SPACE"), (0x2004, "THREE-PER-EM SPACE"),
    (0x2005, "FOUR-PER-EM SPACE"), (0x2006, "SIX-PER-EM SPACE"), (0x2007, "FIGURE SPACE"),
    (0x2008, "PUNCTUATION SPACE"), (0x2009, "THIN SPACE"), (0x200A, "HAIR SPACE"),
    (0x200B, "ZERO WIDTH SPACE"), (0x200C, "ZERO WIDTH NON-JOINER"), (0x200D, "ZERO WIDTH JOINER"),
    (0x200E, "LEFT-TO-RIGHT MARK"), (0x200F, "RIGHT-TO-LEFT MARK"), (0x2028, "LINE SEPARATOR"),
    (0x2029, "PARAGRAPH SEPARATOR"), (0x202A, "LEFT-TO-RIGHT EMBEDDING"),
    (0x202B, "RIGHT-TO-LEFT EMBEDDING"), (0x202C, "POP DIRECTIONAL FORMATTING"),
    (0x202D, "LEFT-TO-RIGHT OVERRIDE"), (0x202E, "RIGHT-TO-LEFT OVERRIDE"),
    (0x202F, "NARROW NO-BREAK SPACE"), (0x205F, "MEDIUM MATHEMATICAL SPACE"),
    (0x2060, "WORD JOINER"), (0x3000, "IDEOGRAPHIC SPACE"), (0xFEFF, "ZERO WIDTH NO-BREAK SPACE"),
    (0x300, "COMBINING GRAVE ACCENT"), (0x301, "COMBINING ACUTE ACCENT"),
    (0x302, "COMBINING CIRCUMFLEX ACCENT"), (0x303, "COMBINING TILDE"),
    (0x308, "COMBINING DIAERESIS"), (0x338, "COMBINING LONG SOLIDUS OVERLAY")]

/-- Upper-case hexadecimal digits of `n`, padded to `w` places. -/
def upperHex (w n : Nat) : String := asciiUpper (String.ofList (Display.hexPad w n))

/-- How a character shows in a reason: a visible one quoted, a backslash in double quotes, any
other by its name or its code point. -/
def display (c : Char) : String :=
  if c == '\\' then "\"\\\""
  else if kind c == .visible then Display.quoted (String.singleton c)
  else match charNames.lookup c.toNat with
    | some name => name
    | none => if c.toNat < 0xFFFF then "U+" ++ upperHex 4 c.toNat else "U+" ++ upperHex 8 c.toNat

/-- Texts in code-point order. -/
def sortTexts (xs : List String) : List String := xs.mergeSort fun a b => decide (a ≤ b)

/-- The offending characters of a reason: each shown once, in the order of their shown forms. -/
def listing (bad : List Char) : String := ", ".intercalate (sortTexts (bad.map display).eraseDups)

/-! ## Character classes -/

/-- A character of an ASCII atom. -/
def isAtext (c : Char) : Bool :=
  (c.toNat < 128 && c.isAlphanum) || "!#$%&'*+-/=?^_`\x7b|\x7d~".toList.contains c

/-- A character of an international atom. -/
def isAtextIntl (c : Char) : Bool := isAtext c || 0x80 ≤ c.toNat

/-- A character of a quoted local part. -/
def isQtext (c : Char) : Bool := (0x20 ≤ c.toNat && c.toNat ≤ 0x7E) || 0x80 ≤ c.toNat

/-- A character of a host name. -/
def isHostChar (c : Char) : Bool :=
  (c.toNat < 128 && c.isAlphanum) || c == '-' || c == '.' || 0x80 ≤ c.toNat

/-- A character of an ASCII host name label. -/
def isLabelChar (c : Char) : Bool := (c.toNat < 128 && c.isAlphanum) || c == '-'

/-- Whether characters are dot-separated non-empty runs of characters of a class. -/
def isDotAtom (p : Char → Bool) (cs : List Char) : Bool :=
  ((String.ofList cs).splitOn ".").all fun part => !part.isEmpty && part.toList.all p

/-- Whether a host name is dot-separated ASCII labels that start and end with a letter or digit. -/
def isAsciiHostname (cs : List Char) : Bool :=
  ((String.ofList cs).splitOn ".").all fun part =>
    let l := part.toList
    !l.isEmpty && l.all isLabelChar && l.head? != some '-' && l.getLast? != some '-'

/-- The shown offending characters of a text that should be safe: letters, numbers,
punctuation and symbols, marks not first, spaces only where allowed. -/
def unsafeChars (cs : List Char) (allowSpace : Bool) : List Char :=
  let bad := (List.range cs.length).filterMap fun i =>
    let c := cs.getD i ' '
    match kind c with
    | .visible => none
    | .mark => if i == 0 then some c else none
    | .space => if allowSpace then none else some c
    | _ => some c
  (bad.eraseDups).mergeSort fun a b => decide (a.toNat ≤ b.toNat)

/-- Refuse a text with unsafe characters. -/
def checkUnsafe (cs : List Char) (allowSpace : Bool) : Except String Unit :=
  let bad := unsafeChars cs allowSpace
  if bad.isEmpty then .ok ()
  else .error ("The email address contains unsafe characters: " ++ ", ".intercalate (bad.map display) ++ ".")

/-- The dot rules of a local part or a host name: no dot first, last or doubled, and for a
host name no hyphen first or last or next to a dot. -/
def checkDots (cs : List Char) (first last : String → String) (hostname : Bool) : Except String Unit := do
  let s := String.ofList cs
  if cs.getLast? == some '.' then throw (last "period")
  if cs.head? == some '.' then throw (first "period")
  if (s.splitOn "..").length > 1 then throw "An email address cannot have two periods in a row."
  if hostname then
    if cs.getLast? == some '-' then throw (last "hyphen")
    if cs.head? == some '-' then throw (first "hyphen")
    if (s.splitOn ".-").length > 1 || (s.splitOn "-.").length > 1 then
      throw "An email address cannot have a period and a hyphen next to each other."

/-! ## Splitting -/

/-- The part of a text before its first special character outside quotes, and the rest from
that character on; `none` when there is no such character. A `<` followed by a combining long
solidus is not special. -/
def splitAtSpecial (specials : List Char) : List Char → Option (List Char × List Char) :=
  go false false []
where
  go (inQuote escaped : Bool) (acc : List Char) : List Char → Option (List Char × List Char)
    | [] => none
    | c :: rest =>
      if c == '<' && rest.head? == some '̸' then go inQuote false (c :: acc) rest
      else if inQuote then
        if c == '\\' && !escaped then go true true (c :: acc) rest
        else if c == '"' && !escaped then go false false (c :: acc) rest
        else go true false (c :: acc) rest
      else if c == '"' then go true false (c :: acc) rest
      else if specials.contains c then some (acc.reverse, c :: rest)
      else go false false (c :: acc) rest

/-- A text without its surrounding quotes and escapes, and whether it was quoted. -/
def unquote (cs : List Char) : Except String (List Char × Bool) :=
  match cs with
  | '"' :: rest => inner [] false rest
  | _ => .ok (cs, false)
where
  inner (acc : List Char) (escaped : Bool) : List Char → Except String (List Char × Bool)
    | [] => .ok (acc.reverse, true)
    | c :: rest =>
      if escaped then inner (c :: acc) false rest
      else if c == '\\' then inner acc true rest
      else if c == '"' then
        if rest.isEmpty then .ok (acc.reverse, true)
        else .error ("Extra character(s) found after close quote: " ++ ", ".intercalate (rest.map display))
      else inner (c :: acc) false rest

/-- The parts of an address: its display name when written in angle brackets, its local part,
its domain, and whether the local part was quoted. -/
structure Parts where
  displayName : Option (List Char)
  localPart : List Char
  domain : List Char
  quoted : Bool

/-- Split an address into its parts. -/
def split (cs : List Char) : Except String Parts := do
  let some (left, right) := splitAtSpecial ['@', '<'] cs
    | throw "An email address must have an @-sign."
  let (name, localPart, domain) ← match right with
    | '<' :: _ =>
      let left := (left.reverse.dropWhile isBlank).reverse
      let (name, nameQuoted) ← unquote left
      if !nameQuoted then
        let bad := name.filter fun c => (!isAtext c && c != ' ') || c == '.'
        if !bad.isEmpty then
          throw ("The display name contains invalid characters when not quoted: " ++ listing bad ++ ".")
      checkUnsafe name true
      if !right.contains '>' then
        throw "An open angle bracket at the start of the email address has to be followed by a close angle bracket at the end."
      let right := (right.reverse.dropWhile (· == ' ')).reverse
      if right.getLast? != some '>' then throw "There can't be anything after the email address."
      let spec := ((right.drop 1).reverse.dropWhile (· == '>')).reverse
      let some (l, d) := splitAtSpecial ['@'] spec
        | throw "An email address must have an @-sign."
      pure (some name, l, d)
    | _ => pure (none, left, right)
  let domain := match domain with
    | '@' :: d => d
    | d => d
  let (localPart, quoted) ← unquote localPart
  pure { displayName := name, localPart := localPart, domain := domain, quoted := quoted }

/-! ## The two parts -/

/-- Check a local part. -/
def checkLocal (cs : List Char) (quoted : Bool) : Except String Unit := do
  if cs.isEmpty then throw "There must be something before the @-sign."
  if isDotAtom isAtext cs then return ()
  if isDotAtom isAtextIntl cs then
    checkUnsafe cs false
    return ()
  if quoted then
    let bad := cs.filter (!isQtext ·)
    if !bad.isEmpty then
      throw ("The email address contains invalid characters in quotes before the @-sign: " ++ listing bad ++ ".")
    checkUnsafe cs true
    return ()
  let bad := cs.filter fun c => !(isAtextIntl c || c == '.')
  if !bad.isEmpty then
    throw ("The email address contains invalid characters before the @-sign: " ++ listing bad ++ ".")
  checkDots cs (fun k => "An email address cannot start with a " ++ k ++ ".")
    (fun k => "An email address cannot have a " ++ k ++ " immediately before the @-sign.") false
  throw "The email address contains invalid characters before the @-sign."

/-- Check an address in brackets: it is refused either way, with the reason when it is no
address. -/
def checkLiteral (cs : List Char) : Except String Unit := do
  let s := String.ofList cs
  if !cs.isEmpty && cs.all (fun c => (c.isDigit && c.toNat < 128) || c == '.') then
    match Address.ipv4Fault s with
    | some e =>
      throw ("The address in brackets after the @-sign is not valid: It is not an IPv4 address (" ++ e ++
        ") or is missing an address literal tag.")
    | none => pure ()
  else if "IPv6:".toList.isPrefixOf cs then
    match Address.ipv6Fault (String.ofList (cs.drop 5)) with
    | some e => throw ("The IPv6 address in brackets after the @-sign is not valid (" ++ e ++ ").")
    | none => pure ()
  else if !cs.contains ':' then
    throw "The part after the @-sign in brackets is not an IPv4 address and has no address literal tag."
  else
    let bad := cs.filter fun c => !(0x21 ≤ c.toNat && c.toNat ≤ 0xFA)
    if !bad.isEmpty then
      throw ("The part after the @-sign contains invalid characters in brackets: " ++ listing bad ++ ".")
    throw "The part after the @-sign contains an invalid address literal tag in brackets."
  throw "A bracketed IP address after the @-sign is not allowed here."

/-- The special-use names that no mail host may have or end with. -/
def specialUseNames : List String := ["arpa", "invalid", "local", "localhost", "onion", "test"]

/-- The reason of a length over a limit: how many characters too many. -/
def tooMany (n limit : Nat) : String :=
  let d := n - limit
  "(" ++ toString d ++ " character" ++ (if d > 1 then "s" else "") ++ " too many)"

/-- A host name that passed its checks: the form it travels in as ASCII, each international
label written as `xn--` and its Punycode, and the form it is shown in, each such label read back
into its own script. -/
structure Host where
  ascii : List Char
  shown : List Char

/-- The refusal of a label that does not fit IDNA on the way to ASCII. -/
def invalidLabel (why : String) : String := "The part after the @-sign is invalid (" ++ why ++ ")."

/-- The refusal of an ASCII label that is no IDNA on the way back. -/
def invalidIdna (why : String) : String := "The part after the @-sign is not valid IDNA (" ++ why ++ ")."

/-- The ASCII form of a label of a host name with international characters: at most 63
characters either way. -/
def asciiLabel (l : List Char) : Except String (List Char) :=
  let a := if l.all (·.toNat < 0x80) then l else "xn--".toList ++ Punycode.encode l
  if a.length > 63 then throw (invalidLabel "Label too long") else pure a

/-- Check a label read back from Punycode: not empty, hyphens where a host name allows them, no
combining mark first and no upper-case letter. -/
def checkShownLabel (u : List Char) : Except String Unit := do
  if u.isEmpty then throw (invalidIdna "Empty Label")
  if (u.drop 2).take 2 == ['-', '-'] then
    throw (invalidIdna "Label has disallowed hyphens in 3rd and 4th position")
  if u.head? == some '-' || u.getLast? == some '-' then
    throw (invalidIdna "Label must not start or end with a hyphen")
  if u.head?.any (isMark ·.toNat) then
    throw (invalidIdna "Label begins with an illegal combining character")
  match (u.zip (List.range u.length)).find? fun (c, _) => lower (String.singleton c) != String.singleton c with
  | some (c, i) =>
    throw (invalidIdna ("Codepoint U+" ++ upperHex 4 c.toNat ++ " at position " ++ toString (i + 1) ++
      " of " ++ Display.quoted (String.ofList u) ++ " not allowed"))
  | none => pure ()

/-- The shown form of an ASCII label: an `xn--` label read back from its Punycode. -/
def shownLabel (l : List Char) : Except String (List Char) :=
  if l.take 4 != "xn--".toList then pure l
  else
    let rest := l.drop 4
    if rest.isEmpty then throw (invalidIdna "Malformed A-label, no Punycode eligible content found")
    else if rest.getLast? == some '-' then throw (invalidIdna "A-label must not end with a hyphen")
    else match Punycode.decode rest with
      | none => throw (invalidIdna "Invalid A-label")
      | some u => do checkShownLabel u; pure u

/-- Join labels with dots. -/
def joinLabels (ls : List (List Char)) : List Char := ".".toList.intercalate ls

/-- Check a host name and give its two forms, lower-cased. -/
def checkDomain (cs : List Char) : Except String Host := do
  let bad := cs.filter (!isHostChar ·)
  if !bad.isEmpty then
    throw ("The part after the @-sign contains invalid characters: " ++ listing bad ++ ".")
  checkUnsafe cs false
  let d := (lower (String.ofList cs)).toList
  checkDots d (fun k => "An email address cannot have a " ++ k ++ " immediately after the @-sign.")
    (fun k => "An email address cannot end with a " ++ k ++ ".") true
  let labels := d.splitOn '.'
  if labels.any (fun t => t.length ≥ 4 && t.getD 2 ' ' == '-' && t.getD 3 ' ' == '-' &&
      asciiLower (String.ofList (t.take 2)) != "xn") then
    throw "An email address cannot have two letters followed by two dashes immediately after the @-sign or after a period, except Punycode."
  let ascii ← if isAsciiHostname d then pure d else joinLabels <$> labels.mapM asciiLabel
  if ascii.length > 253 then
    if ascii == cs then throw ("The email address is too long after the @-sign " ++ tooMany ascii.length 253 ++ ".")
    else
      let k := ascii.length - 253
      throw ("The email address is too long after the @-sign (" ++ toString k ++ " byte" ++
        (if k == 1 then "" else "s") ++ " too many after IDNA encoding).")
  match (ascii.splitOn '.').find? (·.length > 63) with
  | some l =>
    throw ("After the @-sign, periods cannot be separated by so many characters " ++ tooMany l.length 63 ++ ".")
  | none => pure ()
  if !ascii.contains '.' then throw "The part after the @-sign is not valid. It should have a period."
  match ascii.getLast? with
  | some c =>
    if !(c.toNat < 128 && c.isAlpha) then
      throw "The part after the @-sign is not valid. It is not within a valid top-level domain."
  | none => pure ()
  let host := String.ofList ascii
  if specialUseNames.any fun n => host == n || host.endsWith ("." ++ n) then
    throw "The part after the @-sign is a special-use or reserved name that cannot be used with email."
  let shown ← (ascii.splitOn '.').mapM shownLabel
  pure { ascii := ascii, shown := joinLabels shown }

/-- The refusal of an address longer than 254 bytes in one of its forms; `form` names the form,
none for the address as written. -/
def checkLengthOf (addr : List Char) (form : Option String) : Except String Unit := do
  let bytes := (utf8Bytes (String.ofList addr)).length
  if bytes > 254 then
    let diff := bytes - 254
    let s := if diff > 1 then "s" else ""
    match form with
    | some f => throw ("The email address is too long " ++ f ++ " (" ++ toString diff ++ " byte" ++ s ++ " too many).")
    | none =>
      if bytes == addr.length then throw ("The email address is too long " ++ tooMany bytes 254 ++ ".")
      else
        let widest := addr.foldl (fun m c => max m (utf8Bytes (String.singleton c)).length) 1
        let chars := max 1 (diff / widest)
        if chars == diff then
          throw ("The email address is too long (" ++ toString diff ++ " character" ++ s ++ " too many).")
        else
          throw ("The email address is too long (" ++ toString chars ++ "-" ++ toString diff ++
            " character" ++ s ++ " too many).")

/-- Check the length of an address as written, as normalised, and with its host name in ASCII:
at most 254 bytes each. -/
def checkLength (written normalized withAsciiHost : List Char) : Except String Unit := do
  checkLengthOf written none
  checkLengthOf normalized (some "after normalization")
  checkLengthOf withAsciiHost (some "when the part after the @-sign is converted to IDNA ASCII")

/-- Check an address and give its normal form. -/
def normalize (cs : List Char) : Except String String := do
  let p ← split cs
  if let some name := p.displayName then
    if !name.isEmpty then
      throw "A display name and angle brackets around the email address are not permitted here."
  checkLocal p.localPart p.quoted
  if p.quoted then throw "Quoting the part before the @-sign is not allowed here."
  if p.domain.isEmpty then throw "There must be something after the @-sign."
  if p.domain.head? == some '[' && p.domain.getLast? == some ']' then
    checkLiteral ((p.domain.drop 1).dropLast)
  let h ← checkDomain p.domain
  checkLength (p.localPart ++ '@' :: p.domain) (p.localPart ++ '@' :: h.shown)
    (p.localPart ++ '@' :: h.ascii)
  pure (String.ofList (p.localPart ++ '@' :: h.shown))

/-! ## Named addresses -/

/-- A character of a display name outside quotes. -/
def isNameChar (c : Char) : Bool :=
  c.isAlphanum || "!#$%&'*+-/=?^_`\x7b|\x7d~".toList.contains c || (0x80 ≤ c.toNat && !isBlank c)

/-- Whether characters are words of name characters separated by blanks, trailing blanks
allowed. -/
def isPlainName (cs : List Char) : Bool :=
  let t := (cs.reverse.dropWhile isBlank).reverse
  !t.isEmpty && t.all (fun c => isNameChar c || isBlank c) && (t.head?.map isNameChar).getD false

/-- The address of a text written `Name <address>`, `"Name" <address>` or `<address>`, with
blanks around; `none` for a text of another shape. -/
def bracketed? (cs : List Char) : Option (List Char) :=
  let t := cs.dropWhile isBlank
  let u := (t.reverse.dropWhile isBlank).reverse
  if u.getLast? != some '>' then none
  else
    let body := u.dropLast
    let inside (open_ : Nat) : Option (List Char) :=
      let x := body.drop (open_ + 1)
      if x.isEmpty || x.contains '\n' then none else some x
    let firstOpen := body.findIdx? (· == '<')
    let plain : Option (List Char) := match firstOpen with
      | some i => if isPlainName (body.take i) then inside i else none
      | none => none
    let quotedName : Option (List Char) :=
      if t.head? != some '"' then none
      else
        let closes := ((List.range body.length).filter fun i => i ≥ 2 && body.getD i ' ' == '"').reverse
        closes.findSome? fun c =>
          let rest := (body.drop (c + 1)).dropWhile isBlank
          if rest.head? == some '<' then inside (body.length - rest.length) else none
    let bare : Option (List Char) := if body.head? == some '<' then inside 0 else none
    match plain with
    | some x => some x
    | none => match quotedName with
      | some x => some x
      | none => bare

end Email

/-- An email field: the address of a text, as its normal form, lower-cased. -/
def Field.email (j : Json) : Validated String :=
  match j with
  | .str s =>
    if s.length > 2048 then
      .here "value is not a valid email address: Length must not exceed 2048 characters"
    else
      let addr := trimChars ((Email.bracketed? s.toList).getD s.toList)
      match Email.normalize addr with
      | .ok e => .ok (lower e)
      | .error reason => .here ("value is not a valid email address: " ++ reason)
  | _ => .here "Input should be a valid string"

end Bistro
