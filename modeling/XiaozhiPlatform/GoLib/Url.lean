import XiaozhiPlatform.CLib.Ascii

/-!
# URLs

`url.Parse` of a URL with an authority, on the bytes after the scheme and its colon: the fragment and
the query are cut off, the authority ends at the first slash, and percent escapes in the host and the
path are decoded. A query that is only a question mark and a fragment that is only a number sign are
empty, as if they were not there.

A host in brackets is an error here, because it is not a name, and the text of the user information
is left out.
-/

namespace GoLib.Url

open CLib

def isHexDigit (byte : UInt8) : Bool :=
  isDigit byte || (97 ≤ byte && byte ≤ 102) || (65 ≤ byte && byte ≤ 70)

/-- `unhex`. -/
def unhex (byte : UInt8) : ℕ :=
  if byte ≤ 57 then byte.toNat - 48
  else if byte ≤ 70 then byte.toNat - 65 + 10
  else byte.toNat - 97 + 10

/-- The bytes of a host that `shouldEscape` leaves alone. -/
def isHostByte (byte : UInt8) : Bool := isAlnum byte || byte ∈ bytesOf "!$&'()*+,;=:[]<>\"-_.~"

/-- `unescape` in a path, a fragment or a host. In a host only bytes outside ASCII and the percent
sign may be escaped. -/
def unescape (host : Bool) : List UInt8 → Option (List UInt8)
  | [] => some []
  | byte :: rest =>
    if byte = 37 then
      match rest with
      | high :: low :: rest =>
        if ¬ (isHexDigit high && isHexDigit low) = true then none
        else if host = true ∧ unhex high < 8 ∧ ¬ (high = 50 ∧ low = 53) then none
        else (unescape host rest).map (UInt8.ofNat (unhex high * 16 + unhex low) :: ·)
      | _ => none
    else if host = true ∧ byte < 128 ∧ ¬ isHostByte byte = true then none
    else (unescape host rest).map (byte :: ·)

/-- The parts of `strings.Cut`. -/
def cut (separator : UInt8) (text : List UInt8) : List UInt8 × List UInt8 :=
  (text.takeWhile (· ≠ separator), (text.dropWhile (· ≠ separator)).tail)

/-- The part after the last separator, where there is one. -/
def afterLast (separator : UInt8) (text : List UInt8) : List UInt8 :=
  (text.reverse.takeWhile (· ≠ separator)).reverse

/-- `parseHost`. What follows the last colon has to be a number. -/
def parseHost (host : List UInt8) : Option (List UInt8) :=
  if host.head? = some 91 then none
  else if 58 ∈ host ∧ ¬ (afterLast 58 host).all isDigit = true then none
  else unescape true host

theorem unescape_of_parseHost (h : parseHost raw = some host) :
    unescape true raw = some host := by grind [parseHost]

/-- The parts of a URL that are read. -/
structure Parsed where
  user : Bool
  host : List UInt8
  path : List UInt8
  rawQuery : List UInt8
  fragment : List UInt8
deriving DecidableEq, Repr

/-- The part of a URL before the query, and the query. -/
def cutQuery (text : List UInt8) : List UInt8 × List UInt8 :=
  if text.getLast? = some 63 ∧ text.count 63 = 1 then (text.dropLast, []) else cut 63 text

/-- `url.Parse`, after the scheme and its colon, for a rest that begins with two slashes. -/
def parse (text : List UInt8) : Option Parsed := do
  let (before, fragment) := cut 35 text
  guard (before.all (fun byte => 32 ≤ byte && byte ≠ 127) = true)
  let (rest, rawQuery) := cutQuery before
  let authority := (rest.drop 2).takeWhile (· ≠ 47)
  let host ← parseHost (if 64 ∈ authority then afterLast 64 authority else authority)
  let path ← unescape false ((rest.drop 2).dropWhile (· ≠ 47))
  let fragment ← unescape false fragment
  return ⟨64 ∈ authority, host, path, rawQuery, fragment⟩

theorem unhex_lt (h : isHexDigit byte = true) : unhex byte < 16 := by
  have hall : ∀ byte : UInt8, isHexDigit byte = true → unhex byte < 16 :=
    forall_byte (by decide +kernel)
  exact hall byte h

/-- Only an escape can put a percent sign or a byte outside ASCII into a host that is read, so a host
without them was written as it is read. -/
theorem eq_of_unescape : ∀ {raw host : List UInt8}, unescape true raw = some host →
    (∀ byte ∈ host, byte < 128 ∧ byte ≠ 37) → host = raw
  | [], host, h, _ => by
    cases h
    rfl
  | byte :: rest, host, h, hplain => by
    unfold unescape at h
    split at h
    · split at h
      next high low rest =>
        split at h
        · cases h
        next hhex =>
          split at h
          · cases h
          next hallowed =>
            -- An escape that is allowed gives a byte that the host has been assumed not to have.
            obtain ⟨tail, -, rfl⟩ := Option.map_eq_some_iff.mp h
            obtain ⟨hascii, hpercent⟩ := hplain _ List.mem_cons_self
            simp only [not_not, Bool.and_eq_true] at hhex
            have hhigh := unhex_lt hhex.1
            have hlow := unhex_lt hhex.2
            have hvalue : (UInt8.ofNat (unhex high * 16 + unhex low)).toNat =
                unhex high * 16 + unhex low := UInt8.toNat_ofNat_of_lt (by
              simp only [UInt8.size]
              omega)
            have hsmall : unhex high < 8 := by
              rw [UInt8.lt_iff_toNat_lt, hvalue] at hascii
              change _ < 128 at hascii
              omega
            obtain ⟨rfl, rfl⟩ : high = 50 ∧ low = 53 := by
              by_contra hother
              exact hallowed ⟨rfl, hsmall, hother⟩
            exact absurd (by decide) hpercent
      · cases h
    · split at h
      · cases h
      · obtain ⟨tail, htail, rfl⟩ := Option.map_eq_some_iff.mp h
        rw [eq_of_unescape htail fun byte hbyte => hplain byte (List.mem_cons_of_mem _ hbyte)]

theorem cut_cases (separator : UInt8) (text : List UInt8) :
    (separator ∉ text ∧ text.dropWhile (· ≠ separator) = [] ∧ (cut separator text).1 = text) ∨
      (text.dropWhile (· ≠ separator) = separator :: (cut separator text).2 ∧
        text = (cut separator text).1 ++ separator :: (cut separator text).2) := by
  have hparts := List.takeWhile_append_dropWhile (p := (· ≠ separator)) (l := text)
  have hhead := List.head?_dropWhile_not (fun byte : UInt8 => decide (byte ≠ separator)) text
  unfold cut
  cases hsuffix : text.dropWhile (· ≠ separator) with
  | nil => grind [List.mem_takeWhile_imp]
  | cons byte rest => grind

theorem afterLast_append (h : separator ∉ after) :
    afterLast separator (before ++ separator :: after) = after := by
  have hall : ∀ byte ∈ after.reverse, decide (byte ≠ separator) = true := by grind
  rw [afterLast, List.reverse_append, List.reverse_cons, List.append_assoc,
    List.takeWhile_append_of_pos hall, List.singleton_append, List.takeWhile_cons_of_neg (by simp),
    List.append_nil, List.reverse_reverse]

end GoLib.Url
