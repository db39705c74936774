import Bistro.Json.Display

/-!
# Bistro — IP addresses in brackets

An address may name its mail host by an IP address in brackets. An IPv4 address is four
decimal octets of at most three digits, without leading zeros, each at most 255; an IPv6
address is eight groups of at most four hexadecimal digits, a run of zero groups shortened to
`::` at most once, and may end in an IPv4 address. A text that is not an address is refused
with the reason, quoting the offending part.
-/

namespace Bistro

namespace Address

/-- Why an IPv4 octet is refused, if it is. -/
def octetFault (o : String) : Option String :=
  let cs := o.toList
  if cs.isEmpty then some "Empty octet not permitted"
  else if !cs.all fun c => c.isDigit && c.toNat < 128 then
    some ("Only decimal digits permitted in " ++ Display.quoted o)
  else if cs.length > 3 then some ("At most 3 characters permitted in " ++ Display.quoted o)
  else if o != "0" && cs.head? == some '0' then
    some ("Leading zeros are not permitted in " ++ Display.quoted o)
  else
    let v := cs.foldl (fun n c => n * 10 + (c.toNat - '0'.toNat)) 0
    if v > 255 then some ("Octet " ++ toString v ++ " (> 255) not permitted") else none

/-- Why a text is not an IPv4 address, if it is not. -/
def ipv4Fault (s : String) : Option String :=
  if s.isEmpty then some "Address cannot be empty"
  else
    let octets := s.splitOn "."
    if octets.length != 4 then some ("Expected 4 octets in " ++ Display.quoted s)
    else match octets.findSome? octetFault with
      | some e => some (e ++ " in " ++ Display.quoted s)
      | none => none

/-- Whether a character is a hexadecimal digit. -/
def isHexDigit (c : Char) : Bool :=
  (c.isDigit && c.toNat < 128) || ('a' ≤ c && c ≤ 'f') || ('A' ≤ c && c ≤ 'F')

/-- Why an IPv6 group is refused, if it is. -/
def hextetFault (h : String) : Option String :=
  if !h.toList.all isHexDigit then some ("Only hex digits permitted in " ++ Display.quoted h)
  else if h.length > 4 then some ("At most 4 characters permitted in " ++ Display.quoted h)
  else none

/-- The groups of an IPv6 text after an IPv4 ending is read as two groups. -/
def expandIpv4 (s : String) (parts : List String) : Except String (List String) :=
  match parts.getLast? with
  | some last =>
    if last.toList.contains '.' then
      match ipv4Fault last with
      | some e => .error (e ++ " in " ++ Display.quoted s)
      | none => .ok (parts.dropLast ++ ["0", "0"])
    else .ok parts
  | none => .ok parts

/-- Why a text is not an IPv6 address, if it is not. -/
def ipv6Fault (s : String) : Option String :=
  if s.toList.contains '/' then some ("Unexpected '/' in " ++ Display.quoted s)
  else
    let (addr, scopeOk) := match s.splitOn "%" with
      | [a] => (a, true)
      | [a, scope] => (a, !scope.isEmpty)
      | a :: _ => (a, false)
      | [] => (s, true)
    if !scopeOk then some ("Invalid IPv6 address: \"" ++ Display.quoted s ++ "\"")
    else if addr.isEmpty then some "Address cannot be empty"
    else
      let parts := addr.splitOn ":"
      if parts.length < 3 then some ("At least 3 parts expected in " ++ Display.quoted addr)
      else match expandIpv4 addr parts with
        | .error e => some e
        | .ok parts =>
          if parts.length > 9 then some ("At most 8 colons permitted in " ++ Display.quoted addr)
          else
            let inner := (parts.drop 1).dropLast
            let empties := (List.range inner.length).filter fun i => (inner.getD i "x").isEmpty
            if empties.length > 1 then some ("At most one '::' permitted in " ++ Display.quoted addr)
            else
              let first := parts.headD ""
              let last := parts.getLastD ""
              let shape : Option String :=
                match empties.head? with
                | some i =>
                  let skip := i + 1
                  let hi := if first.isEmpty then skip - 1 else skip
                  let lo := if last.isEmpty then parts.length - skip - 2 else parts.length - skip - 1
                  if first.isEmpty && skip - 1 > 0 then
                    some ("Leading ':' only permitted as part of '::' in " ++ Display.quoted addr)
                  else if last.isEmpty && parts.length - skip - 1 - 1 > 0 then
                    some ("Trailing ':' only permitted as part of '::' in " ++ Display.quoted addr)
                  else if 8 < hi + lo + 1 then
                    some ("Expected at most 7 other parts with '::' in " ++ Display.quoted addr)
                  else none
                | none =>
                  if parts.length != 8 then
                    some ("Exactly 8 parts expected without '::' in " ++ Display.quoted addr)
                  else if first.isEmpty then
                    some ("Leading ':' only permitted as part of '::' in " ++ Display.quoted addr)
                  else if last.isEmpty then
                    some ("Trailing ':' only permitted as part of '::' in " ++ Display.quoted addr)
                  else none
              match shape with
              | some e => some e
              | none =>
                match (parts.filter (!·.isEmpty)).findSome? hextetFault with
                | some e => some (e ++ " in " ++ Display.quoted addr)
                | none => none

end Address

end Bistro
