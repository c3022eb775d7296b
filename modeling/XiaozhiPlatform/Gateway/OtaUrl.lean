import XiaozhiPlatform.Device.OtaCore
import XiaozhiPlatform.Gateway.OtaReleases

/-!
# Image URLs of two readers

The gateway parses the URL of an image with `net/url`, and the device walks over its bytes.
`urlChecked_iff` says which of the URLs that the gateway accepts the device accepts too: those without
a question mark and a number sign whose authority, with its port, has at most 253 bytes.
-/

namespace XiaozhiPlatform.OtaReleases

open GoLib CLib ProductOta

/-! ## Hosts and ports -/

/-- A label that `validDNSName` accepts. -/
def LabelValid (label : List UInt8) : Prop :=
  label ≠ [] ∧ label.length ≤ 63 ∧ label.head? ≠ some 45 ∧ label.getLast? ≠ some 45 ∧
    ∀ byte ∈ label, isAlnum byte = true ∨ byte = 45

variable {host : List UInt8}

theorem validDNSName_labels (h : validDNSName host = true) :
    ∀ label ∈ host.splitOn 46, LabelValid label := by
  simp only [validDNSName, Bool.and_eq_true, decide_eq_true_eq, List.all_eq_true, Bool.or_eq_true] at h
  intro label hlabel
  obtain ⟨⟨⟨⟨hne, hlength⟩, hhead⟩, hlast⟩, hbytes⟩ := h.2 label hlabel
  exact ⟨hne, hlength, hhead, hlast, hbytes⟩

theorem hostLoop_label (tail : List UInt8) (previous : UInt8) (size : ℕ)
    (hbytes : ∀ byte ∈ label, isAlnum byte = true ∨ byte = 45) (hhead : size = 0 → label.head? ≠
    some 45) : hostLoop previous size (label ++ tail) = hostLoop (label.getLastD previous) (size +
    label.length) tail := by
  induction label generalizing previous size with
  | nil => rfl
  | cons byte rest ih =>
    have hbyte := hbytes byte List.mem_cons_self
    have hdot : byte ≠ 46 := by
      rintro rfl
      revert hbyte
      decide
    have hnot : ¬ (isAlnum byte = false ∧ byte ≠ 45) := by grind
    have hstart : ¬ (size = 0 ∧ byte = 45) := by grind
    rw [List.cons_append, hostLoop, if_neg hdot, if_neg hnot, if_neg hstart,
      ih byte (size + 1) (fun b hb => hbytes b (List.mem_cons_of_mem byte hb)) (by omega),
      List.length_cons, Nat.add_right_comm, Nat.add_assoc, List.getLastD_cons]

theorem hostLoop_labels : ∀ (labels : List (List UInt8)) (previous : UInt8), labels ≠ [] →
    (∀ label ∈ labels, LabelValid label) →
    ∃ size last, hostLoop previous 0 ([46].intercalate labels) = some size ∧ size ≠ 0 ∧ size ≤ 63 ∧
      ([46].intercalate labels).getLast? = some last ∧ last ≠ 45 ∧ last ≠ 46
  | [], _, hne, _ => absurd rfl hne
  | [label], previous, _, hvalid => by
    obtain ⟨hne, hlength, hhead, hlast, hbytes⟩ := hvalid label List.mem_cons_self
    have hloop := hostLoop_label [] previous 0 hbytes fun _ => hhead
    rw [List.append_nil, Nat.zero_add] at hloop
    obtain ⟨last, hsome⟩ : ∃ last, label.getLast? = some last :=
      ⟨_, List.getLast?_eq_some_getLast hne⟩
    refine ⟨label.length, last, ?_, ?_, hlength, ?_, ?_, ?_⟩
    · rw [List.intercalate_singleton, hloop]
      rfl
    · rw [ne_eq, List.length_eq_zero_iff]
      exact hne
    · rw [List.intercalate_singleton, hsome]
    · rintro rfl
      exact hlast hsome
    · rintro rfl
      have hdot := hbytes 46 (List.mem_of_getLast? hsome)
      revert hdot
      decide
  | label :: next :: labels, previous, _, hvalid => by
    obtain ⟨hne, hlength, hhead, hlast, hbytes⟩ := hvalid label List.mem_cons_self
    obtain ⟨size, last, hloop, hsize, hmaximum, hgetLast, hminus, hdot⟩ :=
      hostLoop_labels (next :: labels) 46 (List.cons_ne_nil _ _)
        fun other hother => hvalid other (List.mem_cons_of_mem label hother)
    have hpositive : label.length ≠ 0 := by
      rw [ne_eq, List.length_eq_zero_iff]
      exact hne
    have hprevious : label.getLastD previous ≠ 45 := by grind
    rw [List.intercalate_cons_cons, List.append_assoc]
    refine ⟨size, last, ?_, hsize, hmaximum, ?_, hminus, hdot⟩
    · rw [hostLoop_label _ previous 0 hbytes fun _ => hhead, Nat.zero_add, List.singleton_append,
        hostLoop, if_pos rfl, if_neg]
      · exact hloop
      · grind
    · grind

theorem hostValid_of_validDNSName (h : validDNSName host = true) : hostValid host = true := by
  have hlabels := validDNSName_labels h
  have hne : host.splitOn 46 ≠ [] := List.splitOn_ne_nil 46 host
  obtain ⟨size, last, hloop, hsize, hmaximum, hgetLast, hminus, hdot⟩ :=
    hostLoop_labels (host.splitOn 46) 0 hne hlabels
  rw [List.intercalate_splitOn] at hloop hgetLast
  have hnonempty : host ≠ [] := by
    rintro rfl
    cases hgetLast
  have hfirst : host.head? ≠ some 46 := by
    intro hhead
    obtain ⟨rest, rfl⟩ : ∃ rest, host = 46 :: rest := by
      cases host with
      | nil => cases hhead
      | cons byte rest => grind
    rw [hostLoop, if_pos rfl, if_pos (.inl rfl)] at hloop
    cases hloop
  unfold hostValid
  rw [if_neg, hloop]
  · simp [hsize, hmaximum, hgetLast, hminus]
  · simp [hnonempty, hfirst, hgetLast, hdot]

theorem le_ofDigitChars (digits : List Char) (start : ℕ) :
    start ≤ Nat.ofDigitChars 10 digits start := by
  induction digits generalizing start with
  | nil => exact Nat.le_refl start
  | cons c rest ih =>
    rw [Nat.ofDigitChars_cons]
    exact Nat.le_trans (by omega) (ih _)

theorem portLoop_digits (port : ℕ) (hdigits : ∀ byte ∈ digits, isDigit byte = true)
    (hmaximum : Nat.ofDigitChars 10 (text digits) port ≤ 65535) :
    portLoop port digits = some (Nat.ofDigitChars 10 (text digits) port) := by
  induction digits generalizing port with
  | nil => rfl
  | cons byte rest ih =>
    have hall : ∀ byte : UInt8, isDigit byte = true →
        (charOf byte).toNat - '0'.toNat = byte.toNat - 48 := forall_byte (by decide +kernel)
    have hvalue : Nat.ofDigitChars 10 (text (byte :: rest)) port =
        Nat.ofDigitChars 10 (text rest) (port * 10 + (byte.toNat - 48)) := by
      rw [text, List.map_cons, Nat.ofDigitChars_cons, hall byte (hdigits byte List.mem_cons_self),
        Nat.mul_comm]
      rfl
    rw [hvalue] at hmaximum ⊢
    have hstep : port * 10 + (byte.toNat - 48) ≤ 65535 :=
      Nat.le_trans (le_ofDigitChars _ _) hmaximum
    rw [portLoop, hdigits byte List.mem_cons_self, if_neg (by decide)]
    dsimp only
    rw [if_neg (by omega), ih _ (fun b hb => hdigits b (List.mem_cons_of_mem byte hb)) hmaximum]

/-! ## URLs -/

/-- What `validImageURL` has checked of a URL that is split into its parts. -/
structure PartsChecked (parsed : Url.Parsed) : Prop where
  user : parsed.user = false
  path : parsed.path ≠ [] ∧ parsed.path ≠ [47]
  colons : parsed.host.count 58 ≤ 1
  name : validDNSName (Url.cut 58 parsed.host).1 = true
  port : 58 ∈ parsed.host →
    ∃ port ∈ parseInt64 (text (Url.cut 58 parsed.host).2), 1 ≤ port ∧ port ≤ 65535

theorem validImageURL_spec (h : validImageURL url = true) :
    url.length ≤ 512 ∧ url.take 8 = bytesOf "https://" ∧ 92 ∉ url ∧
      (∀ byte ∈ url, 32 < byte ∧ byte < 127) ∧
      ∃ parsed, Url.parse (url.drop 6) = some parsed ∧ PartsChecked parsed := by
  unfold validImageURL at h
  split at h
  · cases h
  next hstart =>
    split at h
    · cases h
    next parsed hparsed =>
      split at h
      · cases h
      next hparts =>
        split at h
        · cases h
        next hname =>
          split at h
          · cases h
          next hport =>
            simp only [not_or, not_lt, not_not, not_and, Bool.not_eq_true] at hstart hparts hport hname
            simp only [List.all_eq_true, Bool.and_eq_true, decide_eq_true_eq] at h
            obtain ⟨-, huser, -, -, hpath, hslash, hcolons⟩ := hparts
            exact ⟨hstart.1, hstart.2.1, hstart.2.2, h, parsed, hparsed,
              ⟨huser, ⟨hpath, hslash⟩, hcolons, by simpa using hname, hport⟩⟩

variable {parsed : Url.Parsed}

theorem parse_plain {text : List UInt8} (hquery : 63 ∉ text)
    (hfragment : 35 ∉ text) (h : Url.parse text = some parsed) :
    let authority := (text.drop 2).takeWhile (· ≠ 47)
    parsed.user = decide (64 ∈ authority) ∧
      Url.parseHost (if 64 ∈ authority then Url.afterLast 64 authority else authority) =
        some parsed.host ∧
      Url.unescape false ((text.drop 2).dropWhile (· ≠ 47)) = some parsed.path := by
  have hcut : ∀ byte : UInt8, byte ∉ text → (Url.cut byte text).1 = text := by
    intro byte hbyte
    refine List.takeWhile_eq_self_iff.mpr fun other hother => ?_
    rw [decide_eq_true_eq]
    rintro rfl
    exact hbyte hother
  have hcutQuery : (Url.cutQuery text).1 = text := by grind [Url.cutQuery]
  simp only [Url.parse, hcut 35 hfragment, hcutQuery, Option.bind_eq_bind, Option.bind_eq_some_iff,
    Option.guard_eq_some', exists_const] at h
  obtain ⟨-, host, hhost, path, hpath, fragment, -, h⟩ := h
  cases h
  exact ⟨rfl, hhost, hpath⟩

theorem plain_of_validDNSName (h : validDNSName host = true) :
    ∀ byte ∈ host, byte < 128 ∧ byte ≠ 37 := by
  have hall : ∀ byte : UInt8, isAuthorityByte byte = true → byte < 128 ∧ byte ≠ 37 :=
    forall_byte (by decide +kernel)
  intro byte hbyte
  exact hall byte (List.all_eq_true.mp (all_of_hostValid (hostValid_of_validDNSName h)) byte hbyte)

/-- A host with a valid name and a number for a port has no escapes, because it has only the bytes of
names and numbers. -/
theorem plain_of_partsChecked (h : PartsChecked parsed) :
    ∀ byte ∈ parsed.host, byte < 128 ∧ byte ≠ 37 := by
  have hname := plain_of_validDNSName h.name
  rcases Url.cut_cases 58 parsed.host with ⟨-, -, heq⟩ | ⟨-, heq⟩
  · rw [← heq]
    exact hname
  · intro byte hbyte
    have hcolon : 58 ∈ parsed.host := by grind
    obtain ⟨port, hport, -⟩ := h.port hcolon
    rw [heq, List.mem_append, List.mem_cons] at hbyte
    rcases hbyte with hbyte | rfl | hbyte
    · exact hname byte hbyte
    · decide
    · have hall : ∀ byte : UInt8, (charOf byte).isDigit = true ∨ charOf byte = '+' ∨ charOf byte = '-' →
          byte < 128 ∧ byte ≠ 37 := forall_byte (by decide +kernel)
      have hmem : charOf byte ∈ text (Url.cut 58 parsed.host).2 := List.mem_map_of_mem hbyte
      apply hall byte
      rcases parseInt64_eq_some hport with ⟨digits, hsign, hdigits⟩ | ⟨-, hdigits, -⟩
      · grind
      · exact .inl (hdigits _ hmem)

theorem portValid_of_partsChecked (h : PartsChecked parsed) (hraw :
    Url.parseHost parsed.host = some parsed.host) (hsuffix : parsed.host.dropWhile (· ≠ 58) ≠ []) :
    portValid (Url.cut 58 parsed.host).2 = true := by
  rcases Url.cut_cases 58 parsed.host with ⟨-, hnil, -⟩ | ⟨-, heq⟩
  · exact absurd hnil hsuffix
  · have hcolon : 58 ∈ parsed.host := by
      rw [heq]
      exact List.mem_append_right _ List.mem_cons_self
    obtain ⟨port, hport, hlower, hupper⟩ := h.port hcolon
    have hcolons := h.colons
    generalize (Url.cut 58 parsed.host).2 = digits at heq hport ⊢
    -- There is one colon, so the digits that `parseHost` wants are the port.
    have hone : 58 ∉ digits := by grind
    have hdigits : ∀ byte ∈ digits, isDigit byte = true := by
      grind [Url.parseHost, Url.afterLast_append, List.all_eq_true]
    have hnumber : digits ≠ [] ∧ port = Nat.ofDigitChars 10 (text digits) 0 := by
      rcases parseInt64_eq_some hport with ⟨rest, hsign, -⟩ | ⟨hne, -, hvalue⟩
      · have hall : ∀ byte : UInt8, isDigit byte = true → charOf byte ≠ '+' ∧ charOf byte ≠ '-' :=
          forall_byte (by decide +kernel)
        cases digits with
        | nil => rcases hsign with hsign | hsign <;> cases hsign
        | cons byte digits =>
          have hfirst := hall byte (hdigits byte List.mem_cons_self)
          rcases hsign with hsign | hsign
          · exact absurd (List.cons.inj hsign).1 hfirst.1
          · exact absurd (List.cons.inj hsign).1 hfirst.2
      · exact ⟨fun hnil => hne (by rw [hnil]; rfl), hvalue⟩
    have hloop := portLoop_digits 0 hdigits (by omega)
    simp only [portValid, hloop, Bool.and_eq_true, decide_eq_true_eq]
    exact ⟨⟨hnumber.1, hone⟩, by omega⟩

/-- Of the URLs that the gateway accepts, the device accepts those without a question mark and a
number sign whose authority is not too long. -/
theorem urlChecked_iff {url : List UInt8} (h : validImageURL url = true) :
    UrlChecked url ↔ 63 ∉ url ∧ 35 ∉ url ∧ (authorityOf url).length ≤ authorityMax := by
  obtain ⟨-, hscheme, hbackslash, hvisible, parsed, hparsed, hparts⟩ := validImageURL_spec h
  have hurl : url = bytesOf "https://" ++ (authorityOf url ++ pathOf url) := by
    rw [authorityOf, pathOf, List.takeWhile_append_dropWhile, ← hscheme, List.take_append_drop]
  have hsub : ∀ byte, byte ∈ authorityOf url ∨ byte ∈ pathOf url → byte ∈ url := by grind
  constructor
  · intro hchecked
    have hauthority := hchecked.all_authority
    have hnot : ∀ byte : UInt8, byte ∉ bytesOf "https://" → isAuthorityByte byte = false →
        byte ∉ pathOf url → byte ∉ url := by grind
    exact ⟨hnot 63 (by decide) (by decide) hchecked.clean.2.2.1,
      hnot 35 (by decide) (by decide) hchecked.clean.2.2.2, hchecked.authority.2⟩
  · rintro ⟨hquery, hfragment, hlength⟩
    obtain ⟨huser, hhost, hpath⟩ := parse_plain (fun hmem => hquery (List.mem_of_mem_drop hmem))
      (fun hmem => hfragment (List.mem_of_mem_drop hmem)) hparsed
    rw [List.drop_drop] at huser hhost hpath
    change parsed.user = decide (64 ∈ authorityOf url) at huser
    change Url.parseHost (if 64 ∈ authorityOf url then Url.afterLast 64 (authorityOf url)
      else authorityOf url) = some parsed.host at hhost
    change Url.unescape false (pathOf url) = some parsed.path at hpath
    have hat : 64 ∉ authorityOf url := by
      rw [hparts.user] at huser
      exact of_decide_eq_false huser.symm
    rw [if_neg hat] at hhost
    have heq : parsed.host = authorityOf url :=
      Url.eq_of_unescape (Url.unescape_of_parseHost hhost) (plain_of_partsChecked hparts)
    rw [← heq] at hhost hlength hat
    have hnonempty : parsed.host ≠ [] := by
      intro hnil
      have hname := hparts.name
      rw [hnil] at hname
      exact absurd hname (by decide)
    have hslash : pathOf url ≠ [] ∧ (pathOf url).length ≠ 1 := by
      rcases Url.cut_cases 47 (url.drop 8) with ⟨-, hnil, -⟩ | ⟨hcons, -⟩
      · rw [pathOf, hnil] at hpath
        exact absurd (Option.some.inj hpath).symm hparts.path.1
      · change pathOf url = _ at hcons
        generalize (Url.cut 47 (url.drop 8)).2 = rest at hcons
        rw [hcons] at hpath ⊢
        refine ⟨List.cons_ne_nil _ _, ?_⟩
        intro hone
        obtain rfl : rest = [] := by simpa using hone
        exact absurd (Option.some.inj hpath).symm hparts.path.2
    exact {
      scheme := hscheme
      path := hslash
      authority := heq ▸ ⟨hnonempty, hlength⟩
      clean := ⟨heq ▸ hat, fun hmem => hbackslash (hsub 92 (.inl hmem)),
        fun hmem => hquery (hsub 63 (.inr hmem)), fun hmem => hfragment (hsub 35 (.inr hmem))⟩
      host := heq ▸ hostValid_of_validDNSName hparts.name
      port := heq ▸ portValid_of_partsChecked hparts hhost
      visible := by
        rw [List.all_eq_true]
        intro byte hbyte
        have hrange := hvisible byte (hsub byte (.inr hbyte))
        have hne : byte ≠ 92 := by grind
        simp [hrange, hne] }

end XiaozhiPlatform.OtaReleases
