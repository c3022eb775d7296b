import XiaozhiPlatform.Gateway.OtaTexts
import XiaozhiPlatform.Gateway.OtaUrl

/-!
# One manifest, two readers

A manifest that the registry of the gateway has verified is served to devices as it is, and the device
parses it once more. The device asks for more than the registry: the exact names of all members, a
number for the secure version, and a URL that `urlChecked_iff` describes.

- `Portable`: what a payload needs for the device.
- `manifest_agreement`: of the payloads that the registry accepts, the device accepts those, and both
  sides then build the same canonical text.
-/

namespace XiaozhiPlatform.OtaReleases

open GoLib CLib ProductOta Json

/-! ## What the registry has read -/

theorem storesAt_manifestFields (i : ℕ) (f : Json.Field ManifestDocument)
    (hf : manifestFields[i]? = some f) : Json.StoresAt manifestFields i f := by
  have hi : i < 17 := (List.getElem?_eq_some_iff.mp hf).1
  have hget := hf
  interval_cases i <;> cases hf
  case «0» | «9» | «12» | «13» =>
    exact storesAt_intField hget (fun _ _ => rfl) (fun _ _ => rfl)
  case «6» | «7» => exact storesAt_uintField hget (fun _ _ => rfl) (fun _ _ => rfl)
  all_goals exact storesAt_stringField hget (fun _ _ => rfl) (fun _ _ => rfl)

/-- A payload that the registry has accepted, with the members of its object. -/
structure Accepted (payload : List UInt8) (members : List (String × Json))
    (manifest : ManifestDocument) : Prop where
  parse : parse (decodeRunes payload) = some (.obj members)
  nodup : (members.map Prod.fst).Nodup
  decode : decode manifestFields .zero (.obj members) = some manifest
  valid : manifest.Valid
  signature : ∃ bytes : List UInt8, 8 ≤ bytes.length ∧ bytes.length ≤ 80 ∧
    Base64.encodeToString bytes = manifest.signatureB64URL

theorem accepted_of_verifyManifest {Key : Type} {verifyASN1 : Key → Vector UInt8 32 → List UInt8 →
    Bool} {keys : Std.ExtTreeMap String Key} {payload : List UInt8} {manifest : ManifestDocument} (h
    : verifyManifest verifyASN1 keys payload = .ok manifest) : ∃ members, Accepted payload members
    manifest := by
  obtain ⟨decoded, hdecoded, h⟩ := (bind_eq_ok _ _ _).mp h
  obtain ⟨_, hvalid, h⟩ := (bind_eq_ok _ _ _).mp h
  rw [failIf_eq_ok, not_not] at hvalid
  split at h
  · cases h
  next key hkey =>
    split at h
    · cases h
    next signature hsignature =>
      obtain ⟨_, hchecked, h⟩ := (bind_eq_ok _ _ _).mp h
      cases h
      rw [failIf_eq_ok] at hchecked
      simp only [not_or, not_lt, not_not] at hchecked
      obtain ⟨hshort, hlong, hcanonical, -⟩ := hchecked
      unfold decodeStrict at hdecoded
      split at hdecoded
      · cases hdecoded
      next value hparse =>
        split at hdecoded
        · cases hdecoded
        next hunique =>
          split at hdecoded
          · cases hdecoded
          next hdecode =>
            cases hdecoded
            cases value with
            | obj members =>
              refine ⟨members, hparse, ?_, hdecode, hvalid, signature, hshort, hlong, hcanonical⟩
              simp only [not_not, noDuplicateNames, Bool.and_eq_true, decide_eq_true_eq] at hunique
              exact hunique.1
            | null =>
              -- A null leaves the manifest of zeros, which has no schema.
              cases hdecode
              exact absurd hvalid.1 (by decide)
            | _ => cases hdecode

section Accepted

variable {payload : List UInt8} {members : List (String × Json)} {manifest : ManifestDocument}

theorem Accepted.numberValid (h : Accepted payload members manifest) :
    ∀ member ∈ members, Json.NumberValid member.2 := by
  rintro ⟨name, json⟩ hmember literal rfl
  exact validNumber_of_parse h.parse hmember

theorem Accepted.holdable (h : Accepted payload members manifest) :
    ∀ member ∈ members, Holdable member.1 := by
  rintro ⟨name, json⟩ hmem
  obtain ⟨f, hf, hname, -⟩ := exists_set_of_mem h.decode hmem
  have htags : ∀ f ∈ manifestFields, Char.ofNat 0 ∉ foldName f.name ∧
      runeError ∉ foldName f.name := by decide +kernel
  obtain ⟨hzero, herror⟩ := htags f hf
  rw [hname] at hzero herror
  exact ⟨fun hmem => hzero (List.mem_map_of_mem (f := foldChar) hmem),
    fun hmem => herror (List.mem_map_of_mem (f := foldChar) hmem)⟩

theorem Accepted.get_ne_zero (h : Accepted payload members manifest) :
    ∀ f ∈ manifestFields, f.name ≠ "secure_version" → f.get manifest ≠ f.get .zero := by
  obtain ⟨hschema, hreleaseID, hproject, hboard, hchannel, hversion, hsequence, -, hsize, -, himage,
    hreset, hnotBefore, -, hexpires, -, hsigning, halgorithm, hurl⟩ := h.valid
  have hsha : ∀ s : String, Provisioning.ValidSHA256 s → s ≠ "" := by
    rintro s hvalid rfl
    exact absurd hvalid.1 (by decide)
  have hint : ∀ n : ℤ, n ≠ 0 → int n ≠ int 0 := fun n hn heq => hn (int_inj heq)
  have hstr : ∀ s : String, s ≠ "" → str s ≠ str "" := fun s hs heq =>
    hs (str.inj heq)
  have hsignature : manifest.signatureB64URL ≠ "" := by
    obtain ⟨bytes, hshort, -, heq⟩ := h.signature
    intro hempty
    have hlength := Base64.length_encode bytes
    rw [hempty, Base64.encodeToString, String.ofList_eq_empty_iff] at heq
    rw [heq, List.length_nil] at hlength
    omega
  have himageURL : manifest.imageURL ≠ "" := by
    intro hempty
    rw [hempty] at hurl
    exact absurd hurl (by decide)
  simp only [manifestFields, List.forall_mem_cons]
  refine ⟨fun _ => hint manifest.schema (by omega), fun _ => hstr _ hreleaseID.1,
    fun _ => hstr _ hproject.1, fun _ => hstr _ hboard.1, fun _ => hstr _ hchannel.1,
    fun _ => hstr _ hversion.1, fun _ heq => hsequence (nat_inj heq),
    fun hne => absurd rfl hne, fun _ => hstr _ himageURL, fun _ => hint manifest.imageSize (by omega),
    fun _ => hstr _ (hsha _ himage), fun _ => hstr _ (hsha _ hreset),
    fun _ => hint manifest.notBefore (by omega), fun _ => hint manifest.expiresAt (by omega),
    fun _ => hstr _ hsigning.1, fun _ => hstr manifest.signatureAlgorithm (by rw [halgorithm]; decide),
    fun _ => hstr _ hsignature, by simp⟩

theorem Accepted.plainText (h : Accepted payload members manifest) :
    ∀ f ∈ manifestFields, ∀ s, f.get manifest = .str s → Json.PlainText s := by
  obtain ⟨-, hreleaseID, hproject, hboard, hchannel, hversion, -, -, -, -, himage, hreset, -, -, -, -,
    hsigning, halgorithm, hurl⟩ := h.valid
  have hidentifier : ∀ {s : String} {maximum : ℕ}, Auth.ValidIdentifier s maximum → Json.PlainText s :=
    fun hvalid c hc => plainChar_of_isIdentifierChar (hvalid.2.2 c hc)
  have hsha : ∀ {s : String}, Provisioning.ValidSHA256 s → Json.PlainText s := fun hvalid c hc =>
    plainChar_of_isIdentifierChar (isIdentifierChar_of_isLowerHex (hvalid.2 c hc))
  have hversionPlain : Json.PlainText manifest.version := by
    intro c hc
    rcases isIdentifierChar_of_isVersionChar (hversion.2.2 c hc) with hidentifierChar | rfl
    · exact plainChar_of_isIdentifierChar hidentifierChar
    · exact ⟨by decide, by decide, by decide⟩
  have hurlPlain : Json.PlainText manifest.imageURL := by
    obtain ⟨-, -, hbackslash, hvisible, -⟩ := validImageURL_spec hurl
    intro c hc
    have hall : ∀ byte : UInt8, 32 < byte ∧ byte < 127 → byte < 128 ∧ byte.toNat ≠ 0 :=
      forall_byte (by decide +kernel)
    obtain ⟨hascii, hmem⟩ := ascii_of_forall_utf8 (fun byte hbyte => (hall byte (hvisible byte hbyte)).1) hc
    refine ⟨hascii, ?_, ?_⟩
    · rintro rfl
      exact hbackslash hmem
    · intro hzero
      rw [hzero] at hmem
      exact absurd (hvisible _ hmem).1 (by decide)
  have hsignature : Json.PlainText manifest.signatureB64URL := by
    obtain ⟨bytes, -, -, heq⟩ := h.signature
    intro c hc
    rw [← heq, Base64.encodeToString, String.toList_ofList] at hc
    exact plainChar_of_isIdentifierChar
      (Token.isIdentifierChar_of_isSymbol (Base64.isSymbol_of_mem_encode hc)).1
  have halgorithmPlain : Json.PlainText manifest.signatureAlgorithm := by
    rw [halgorithm]
    decide +kernel
  have hstr : ∀ {s t : String}, Json.PlainText s → str s = .str t → Json.PlainText t :=
    fun hplain heq => str.inj heq ▸ hplain
  have hint : ∀ {n : ℤ} {t : String}, int n = .str t → Json.PlainText t := nofun
  have hnat : ∀ {n : ℕ} {t : String}, nat n = .str t → Json.PlainText t := nofun
  simp only [manifestFields, List.forall_mem_cons]
  exact ⟨fun _ => hint, fun _ => hstr (hidentifier hreleaseID), fun _ => hstr (hidentifier hproject),
    fun _ => hstr (hidentifier hboard), fun _ => hstr (hidentifier hchannel), fun _ => hstr hversionPlain,
    fun _ => hnat, fun _ => hnat, fun _ => hstr hurlPlain, fun _ => hint, fun _ => hstr (hsha himage),
    fun _ => hstr (hsha hreset), fun _ => hint, fun _ => hint, fun _ => hstr (hidentifier hsigning),
    fun _ => hstr halgorithmPlain, fun _ => hstr hsignature, nofun⟩

/-- The members have exact names, and the secure version is a number. -/
structure Exact (members : List (String × Json)) : Prop where
  names : ∀ member ∈ members, member.1 ∈ fieldNames
  secure : ∃ literal, ("secure_version", .num literal) ∈ members

theorem Accepted.holds (h : Accepted payload members manifest) (hexact : ∀ member ∈ members,
    member.1 ∈ fieldNames) (hf : f ∈ manifestFields) : (f.name ∉
    members.map Prod.fst → f.get manifest = f.get .zero) ∧ ∀ json, (f.name, json) ∈ members →
    Json.Holds json (f.get .zero) (f.get manifest) ∧ ∃ before after, f.set json before = some after
    := by
  obtain ⟨i, hi⟩ := List.getElem?_of_mem hf
  exact holds_of_members (by decide) storesAt_manifestFields hi h.decode hexact h.nodup h.numberValid

theorem formatInt_of_nonneg {n : ℤ} (h : 0 ≤ n) : formatInt n = formatNat n.toNat := by
  rw [formatInt, if_neg (by omega)]
  congr 1
  omega

theorem holdable_of_plainText (h : Json.PlainText s) : Holdable s :=
  ⟨fun hmem => (h _ hmem).2.2 rfl, fun hmem => absurd (h _ hmem).1 (by decide)⟩

theorem copyString_of_eq {item : Option CString} {text : CString} {size : ℕ} (hitem : item = some text)
    (hne : text.bytes.length ≠ 0) (hsize : text.bytes.length < size) :
    copyString size item = some text := by grind [copyString]

theorem exactUint_natCast {n minimum maximum : ℕ} (hlow : minimum ≤ n) (hhigh : n ≤ maximum) :
    exactUint (some (some (n : ℚ))) minimum maximum = some n := by
  have hfloor : (n : ℚ).floor.toNat = n := by
    rw [← Int.cast_natCast, Rat.floor_intCast, Int.toNat_natCast]
  have hnonneg : ¬ (n : ℚ) < 0 := not_lt.mpr (Nat.cast_nonneg n)
  rw [exactUint, if_neg hnonneg]
  dsimp only
  rw [hfloor, if_neg]
  simp only [ne_eq, not_true_eq_false, false_or, not_or, not_lt]
  exact ⟨hlow, hhigh⟩

theorem bytesOf_append (left right : String) :
    bytesOf (left ++ right) = bytesOf left ++ bytesOf right := by
  rw [bytesOf, String.toList_append, utf8_append]
  rfl

variable (h : Accepted payload members manifest) (hexact : Exact members)

include h hexact

theorem Accepted.mem_members : ∀ f
    ∈ manifestFields, (f.name, f.get manifest) ∈ members := by
  intro f hf
  obtain ⟨hmissing, hmember⟩ := h.holds hexact.names hf
  by_cases hname : f.name = "secure_version"
  · obtain ⟨literal, hmem⟩ := hexact.secure
    rw [← hname] at hmem
    obtain ⟨hholds, before, after, hset⟩ := hmember _ hmem
    rcases hholds with ⟨hnull, -⟩ | heq | ⟨hminus, -⟩
    · cases hnull
    · rw [heq]
      exact hmem
    · -- An unsigned number has no sign.
      rw [hminus] at hset
      simp only [manifestFields, List.mem_cons, List.not_mem_nil, or_false] at hf
      rcases hf with rfl | rfl | rfl | rfl | rfl | rfl | rfl | rfl | rfl | rfl | rfl | rfl | rfl | rfl |
        rfl | rfl | rfl
      all_goals first | exact absurd hname (by decide) | cases hset
  · have hzero := h.get_ne_zero f hf hname
    by_cases hpresent : f.name ∈ members.map Prod.fst
    · obtain ⟨⟨name, json⟩, hmem, hfst⟩ := List.mem_map.mp hpresent
      dsimp only at hfst
      subst hfst
      rcases (hmember json hmem).1 with ⟨-, hsame⟩ | heq | ⟨-, heq⟩
      · exact absurd hsame hzero
      · rw [heq]
        exact hmem
      · -- A zero with a sign is the zero value of an integer.
        have hplain : ∀ f ∈ manifestFields, f.get manifest = .num ['0'] → f.get .zero = .num ['0'] := by
          simp only [manifestFields, List.forall_mem_cons]
          exact ⟨fun _ => rfl, nofun, nofun, nofun, nofun, nofun, fun _ => rfl, fun _ => rfl, nofun,
            fun _ => rfl, nofun, nofun, fun _ => rfl, fun _ => rfl, nofun, nofun, nofun, nofun⟩
        exact absurd (heq.trans (hplain f hf heq).symm) hzero
    · exact absurd (hmissing hpresent) hzero

theorem Accepted.eq_get (hmem : (name, json) ∈ members) : ∃ f ∈
    manifestFields, f.name = name ∧ f.get manifest = json := by
  have hname : name ∈ manifestFields.map Json.Field.name := hexact.names _ hmem
  obtain ⟨f, hf, rfl⟩ := List.mem_map.mp hname
  refine ⟨f, hf, rfl, ?_⟩
  have hfield := h.mem_members hexact f hf
  exact congrArg Prod.snd (List.inj_on_of_nodup_map h.nodup hfield hmem rfl)

theorem Accepted.plain : ∀ member ∈
    members, Json.PlainText member.1 ∧ Json.PlainScalar member.2 := by
  rintro ⟨name, json⟩ hmem
  obtain ⟨f, hf, rfl, rfl⟩ := h.eq_get hexact hmem
  have hnames : ∀ name ∈ fieldNames, Json.PlainText name := by decide +kernel
  refine ⟨hnames f.name (hexact.names _ hmem), ?_⟩
  have htext := h.plainText f hf
  have hkind : ∀ f ∈ manifestFields,
      (∃ s, f.get manifest = .str s) ∨ ∃ literal, f.get manifest = .num literal := by
    simp only [manifestFields, List.forall_mem_cons]
    exact ⟨.inr ⟨_, rfl⟩, .inl ⟨_, rfl⟩, .inl ⟨_, rfl⟩, .inl ⟨_, rfl⟩, .inl ⟨_, rfl⟩, .inl ⟨_, rfl⟩,
      .inr ⟨_, rfl⟩, .inr ⟨_, rfl⟩, .inl ⟨_, rfl⟩, .inr ⟨_, rfl⟩, .inl ⟨_, rfl⟩, .inl ⟨_, rfl⟩,
      .inr ⟨_, rfl⟩, .inr ⟨_, rfl⟩, .inl ⟨_, rfl⟩, .inl ⟨_, rfl⟩, .inl ⟨_, rfl⟩, nofun⟩
  rcases hkind f hf with ⟨s, hs⟩ | ⟨literal, hliteral⟩
  · rw [hs]
    exact htext s hs
  · rw [hliteral]
    trivial

theorem Accepted.secureVersion_lt :
    manifest.secureVersion < 2 ^ 32 := by
  have hf : manifestFields[7]? = some (uintField 32 "secure_version" (·.secureVersion)
      fun n d => { d with secureVersion := n }) := rfl
  have hfield := List.mem_of_getElem? hf
  obtain ⟨-, before, after, hset⟩ := (h.holds hexact.names hfield).2 _ (h.mem_members hexact _ hfield)
  obtain ⟨n, hn, hset⟩ := Option.bind_eq_some_iff.mp hset
  have hvalue : n = manifest.secureVersion :=
    (Option.some.inj ((parseNat_formatNat manifest.secureVersion).symm.trans hn)).symm
  split at hset
  next hlt => exact hvalue ▸ hlt
  next => cases hset

theorem Accepted.exists_formatNat :
    ∀ f ∈ manifestFields, ∀ literal, f.get manifest = .num literal → ∃ n < 2 ^ 32, literal =
    formatNat n := by
  obtain ⟨hschema, -, -, -, -, -, -, hsequence, hsizeLow, hsizeHigh, -, -, hnotBefore, hexpires,
    hwindow, -⟩ := h.valid
  have hint : ∀ {n : ℤ}, 0 ≤ n → n < 2 ^ 32 → ∀ literal, int n = .num literal →
      ∃ m < 2 ^ 32, literal = formatNat m := by
    intro n hlow hhigh literal heq
    refine ⟨n.toNat, by omega, ?_⟩
    rw [← num.inj heq, formatInt_of_nonneg hlow]
  have hnat : ∀ {n : ℕ}, n < 2 ^ 32 → ∀ literal, nat n = .num literal →
      ∃ m < 2 ^ 32, literal = formatNat m := by
    intro n hlt literal heq
    exact ⟨n, hlt, (num.inj heq).symm⟩
  have hstr : ∀ s literal, str s = .num literal → ∃ m < 2 ^ 32, literal = formatNat m := nofun
  have hsecureVersion := h.secureVersion_lt hexact
  simp only [manifestFields, List.forall_mem_cons]
  exact ⟨hint (n := manifest.schema) (by omega) (by omega), hstr _, hstr _, hstr _, hstr _, hstr _,
    hnat (n := manifest.releaseSequence) (by omega), hnat hsecureVersion, hstr _,
    hint (n := manifest.imageSize) (by omega) (by omega), hstr _, hstr _,
    hint (n := manifest.notBefore) (by omega) (by omega),
    hint (n := manifest.expiresAt) (by omega) (by omega), hstr _, hstr _, hstr _, nofun⟩

theorem Accepted.readable : ∀
    member ∈ members, Holdable member.1 ∧ Readable member.2 := by
  rintro ⟨name, json⟩ hmem
  refine ⟨h.holdable _ hmem, ?_⟩
  have hscalar := (h.plain hexact _ hmem).2
  obtain ⟨f, hf, -, hjson⟩ := h.eq_get hexact hmem
  cases json with
  | num literal =>
    obtain ⟨n, hn, rfl⟩ := h.exists_formatNat hexact f hf literal hjson
    have hlength := length_formatNat_le (k := 10) (by decide) (Nat.lt_trans hn (by decide))
    exact Nat.le_trans hlength (by decide)
  | str s => exact holdable_of_plainText hscalar
  | null => trivial
  | bool value => trivial
  | arr | obj => cases hscalar

/-! ## What the device reads -/

variable {nodes : List (CString × CJson)} (hshows : List.Forall₂ ShowsMember members nodes)

include hshows

theorem Accepted.stringItem (i : ℕ) (name : String) {s : String}
    {f : Json.Field ManifestDocument} (hf : manifestFields[i]? = some f) (hname : f.name = name)
    (hs : f.get manifest = .str s) :
    ∃ text, (CJson.object nodes).stringItem name = some text ∧ text.bytes = bytesOf s := by
  subst hname
  have hfield := List.mem_of_getElem? hf
  obtain ⟨node, hnode, hshown⟩ := objectItem_of_mem hshows h.nodup (h.mem_members hexact f hfield)
  rw [hs] at hshown
  cases node with
  | string text =>
    refine ⟨text, ?_, hshown (holdable_of_plainText (h.plainText f hfield s hs))⟩
    rw [CJson.stringItem, hnode]
  | _ => cases hshown

theorem Accepted.numberItem (i : ℕ) (name : String) (n : ℕ)
    {f : Json.Field ManifestDocument} (hf : manifestFields[i]? = some f) (hname : f.name = name)
    (hn : f.get manifest = .num (formatNat n)) :
    (CJson.object nodes).numberItem name = some (some (n : ℚ)) := by
  subst hname
  have hfield := List.mem_of_getElem? hf
  obtain ⟨node, hnode, hshown⟩ := objectItem_of_mem hshows h.nodup (h.mem_members hexact f hfield)
  obtain ⟨m, hm, hliteral⟩ := h.exists_formatNat hexact f hfield _ hn
  have hsmall : n < 2 ^ 53 := by
    have hnm : n = m := nat_inj (congrArg num hliteral)
    omega
  rw [hn] at hshown
  cases node with
  | number valuedouble => rw [CJson.numberItem, hnode, hshown n rfl hsmall]
  | _ => cases hshown

/-- The texts that the device has copied are those of the manifest. -/
structure SameTexts (manifest : ManifestDocument) (texts : Manifest) : Prop where
  releaseID : texts.releaseID.bytes = bytesOf manifest.releaseID
  project : texts.project.bytes = bytesOf manifest.project
  board : texts.board.bytes = bytesOf manifest.board
  channel : texts.channel.bytes = bytesOf manifest.channel
  version : texts.version.bytes = bytesOf manifest.version
  imageURL : texts.imageURL.bytes = bytesOf manifest.imageURL
  imageSHA256Hex : texts.imageSHA256Hex.bytes = bytesOf manifest.imageSHA256
  resetHex : texts.resetQualificationSHA256Hex.bytes = bytesOf manifest.resetQualificationSHA256
  signingKeyID : texts.signingKeyID.bytes = bytesOf manifest.signingKeyID

theorem Accepted.parseTexts :
    ∃ texts : Manifest, SameTexts manifest texts ∧ ∀ before,
      parseTexts (.object nodes) before = some { before with
        releaseID := texts.releaseID, project := texts.project, board := texts.board,
        channel := texts.channel, version := texts.version, imageURL := texts.imageURL,
        imageSHA256Hex := texts.imageSHA256Hex,
        resetQualificationSHA256Hex := texts.resetQualificationSHA256Hex,
        signingKeyID := texts.signingKeyID } := by
  obtain ⟨-, hreleaseID, hproject, hboard, hchannel, hversion, -, -, -, -, himage, hreset, -, -, -, -,
    hsigning, -, hurl⟩ := h.valid
  have hcopy : ∀ {value : String} {size : ℕ} {item : Option CString},
      (∃ text, item = some text ∧ text.bytes = bytesOf value) → value ≠ "" →
      byteLength value.toList < size → ∃ text, copyString size item = some text ∧ text.bytes = bytesOf value := by
    rintro value size item ⟨text, hitem, hbytes⟩ hne hsize
    refine ⟨text, copyString_of_eq hitem (length_pos_of_ne_empty hbytes hne) ?_, hbytes⟩
    rw [hbytes]
    exact hsize
  have hsha : ∀ {value : String}, Provisioning.ValidSHA256 value →
      value ≠ "" ∧ byteLength value.toList < 65 := by
    rintro value hvalid
    refine ⟨?_, by rw [hvalid.1]; decide⟩
    rintro rfl
    exact absurd hvalid.1 (by decide)
  have hurlNonempty : manifest.imageURL ≠ "" := by
    intro hempty
    rw [hempty] at hurl
    exact absurd hurl (by decide)
  have hitem := h.stringItem hexact hshows
  obtain ⟨releaseID, hreleaseID, hreleaseIDBytes⟩ :=
    hcopy (hitem 1 "release_id" rfl rfl rfl) hreleaseID.1 (Nat.lt_succ_of_le hreleaseID.2.1)
  obtain ⟨project, hproject, hprojectBytes⟩ :=
    hcopy (hitem 2 "project" rfl rfl rfl) hproject.1 (Nat.lt_succ_of_le hproject.2.1)
  obtain ⟨board, hboard, hboardBytes⟩ := hcopy (hitem 3 "board" rfl rfl rfl) hboard.1 (Nat.lt_succ_of_le hboard.2.1)
  obtain ⟨channel, hchannel, hchannelBytes⟩ :=
    hcopy (hitem 4 "channel" rfl rfl rfl) hchannel.1 (Nat.lt_succ_of_le hchannel.2.1)
  obtain ⟨version, hversion, hversionBytes⟩ :=
    hcopy (hitem 5 "version" rfl rfl rfl) hversion.1 (Nat.lt_succ_of_le hversion.2.1)
  obtain ⟨imageURL, himageURL, himageURLBytes⟩ :=
    hcopy (hitem 8 "image_url" rfl rfl rfl) hurlNonempty (Nat.lt_succ_of_le (validImageURL_spec hurl).1)
  obtain ⟨imageHex, himageHex, himageHexBytes⟩ := hcopy (hitem 10 "image_sha256" rfl rfl rfl) (hsha himage).1 (hsha himage).2
  obtain ⟨resetHex, hresetHex, hresetHexBytes⟩ := hcopy (hitem 11 "reset_qualification_sha256" rfl rfl rfl) (hsha hreset).1 (hsha hreset).2
  obtain ⟨signingKeyID, hsigning, hsigningBytes⟩ :=
    hcopy (hitem 14 "signing_key_id" rfl rfl rfl) hsigning.1 (Nat.lt_succ_of_le hsigning.2.1)
  refine ⟨{ Manifest.zero with
    releaseID, project, board, channel, version, imageURL, imageSHA256Hex := imageHex,
    resetQualificationSHA256Hex := resetHex, signingKeyID }, ?_, ?_⟩
  · exact ⟨hreleaseIDBytes, hprojectBytes, hboardBytes, hchannelBytes, hversionBytes, himageURLBytes,
      himageHexBytes, hresetHexBytes, hsigningBytes⟩
  · intro before
    unfold ProductOta.parseTexts
    rw [hreleaseID, hproject, hboard, hchannel, hversion, himageURL, himageHex, hresetHex, hsigning]
    rfl

theorem Accepted.parseNumbers (before : Manifest) :
    parseNumbers (.object nodes) before = some { before with
      releaseSequence := manifest.releaseSequence, secureVersion := manifest.secureVersion,
      imageSize := manifest.imageSize.toNat, notBefore := manifest.notBefore.toNat,
      expiresAt := manifest.expiresAt.toNat } := by
  obtain ⟨-, -, -, -, -, -, hsequenceLow, hsequenceHigh, hsizeLow, hsizeHigh, -, -, hnotBefore,
    hexpires, hwindow, -⟩ := h.valid
  have hint : ∀ n : ℤ, 0 ≤ n → int n = .num (formatNat n.toNat) := fun n hn =>
    congrArg num (formatInt_of_nonneg hn)
  have hitem := h.numberItem hexact hshows
  have hsecureVersion := h.secureVersion_lt hexact
  have hsequence := hitem 6 "release_sequence" manifest.releaseSequence rfl rfl rfl
  have hsecure := hitem 7 "secure_version" manifest.secureVersion rfl rfl rfl
  have hsize := hitem 9 "image_size" manifest.imageSize.toNat rfl rfl (hint manifest.imageSize (by omega))
  have hstart := hitem 12 "not_before" manifest.notBefore.toNat rfl rfl (hint manifest.notBefore (by omega))
  have hend := hitem 13 "expires_at" manifest.expiresAt.toNat rfl rfl (hint manifest.expiresAt (by omega))
  unfold ProductOta.parseNumbers
  rw [hsequence, hsecure, hsize, hstart, hend, exactUint_natCast (by omega) hsequenceHigh,
    exactUint_natCast (by omega) (by omega), exactUint_natCast (by omega) (by omega),
    exactUint_natCast (by omega) (by omega), exactUint_natCast (by omega) (by omega)]
  rfl

theorem Accepted.parseSignature :
    ∃ signature, parseSignature (.object nodes) = some signature := by
  have hitem := h.stringItem hexact hshows
  obtain ⟨algorithm, halgorithm, halgorithmBytes⟩ := hitem 15 "signature_algorithm" rfl rfl rfl
  obtain ⟨text, htext, htextBytes⟩ := hitem 16 "signature_b64url" rfl rfl rfl
  obtain ⟨signature, hshort, hlong, hencoded⟩ := h.signature
  have hvalid : manifest.signatureAlgorithm = "ECDSA_P256_SHA256" := h.valid.2.2.2.2.2.2.2.2.2.2.2.2.2.2.2.2.2.1
  have hdecode : decodeBase64url text signatureMaxBytes = some signature := by
    refine decodeBase64url_encode (by rw [htextBytes, hencoded]) ?_ hlong
    rintro rfl
    exact absurd hshort (by decide)
  refine ⟨signature, ?_⟩
  unfold ProductOta.parseSignature
  rw [halgorithm, htext]
  simp [halgorithmBytes, hvalid, hdecode, hshort]

theorem Accepted.parseFields : ∃ parsed, parseFields (.object nodes) = some parsed ∧
    parsed.imageURL.bytes = bytesOf manifest.imageURL ∧
    canonicalText parsed = canonicalManifest manifest := by
  obtain ⟨hschema, hreleaseID, hproject, hboard, hchannel, hversion, -, -, hsizeLow, -, himage, hreset,
    hnotBefore, -, hwindow, -, hsigning, halgorithm, -⟩ := h.valid
  obtain ⟨texts, hsame, htexts⟩ := h.parseTexts hexact hshows
  obtain ⟨signature, hsignature⟩ := h.parseSignature hexact hshows
  obtain ⟨imageDigest, himageDigest⟩ := sha256HexDecode_of_validSHA256 hsame.imageSHA256Hex himage
  obtain ⟨resetDigest, hresetDigest⟩ := sha256HexDecode_of_validSHA256 hsame.resetHex hreset
  have hnumber : (CJson.object nodes).numberItem "schema" = some (some ((2 : ℕ) : ℚ)) :=
    h.numberItem hexact hshows 0 "schema" 2 rfl rfl (congrArg int hschema)
  have hvalid : textsValid texts = true := by
    simp only [textsValid, identifierValid_of_validIdentifier hsame.releaseID hreleaseID,
      identifierValid_of_validIdentifier hsame.project hproject,
      identifierValid_of_validIdentifier hsame.board hboard,
      identifierValid_of_validIdentifier hsame.channel hchannel,
      versionValid_of_validVersion hsame.version hversion,
      identifierValid_of_validIdentifier hsame.signingKeyID hsigning, Bool.and_self]
  refine ⟨{ texts with
    schema := 2, releaseSequence := manifest.releaseSequence, secureVersion := manifest.secureVersion,
    imageSize := manifest.imageSize.toNat, notBefore := manifest.notBefore.toNat,
    expiresAt := manifest.expiresAt.toNat, signature := signature, imageSHA256 := imageDigest,
    resetQualificationSHA256 := resetDigest }, ?_, hsame.imageURL, ?_⟩
  · unfold ProductOta.parseFields
    simp only [hnumber, exactUint_natCast (Nat.le_refl 2) (Nat.le_refl 2), htexts,
      h.parseNumbers hexact hshows, hsignature, Option.bind_eq_bind, Option.bind_some, himageDigest,
      hresetDigest]
    change Option.bind (guard (textsValid texts = true)) _ = _
    rw [hvalid]
    rfl
  · have hnumberLine : ∀ (name : String) (n : ℤ), 0 ≤ n →
        bytesOf (name ++ String.ofList (formatInt n)) = line name (utf8 (formatNat n.toNat)) := by
      intro name n hn
      rw [bytesOf_append, formatInt_of_nonneg hn, line, bytesOf, bytesOf, String.toList_ofList]
    have hnatLine : ∀ (name : String) (n : ℕ),
        bytesOf (name ++ String.ofList (formatNat n)) = line name (utf8 (formatNat n)) := by
      intro name n
      rw [bytesOf_append, line, bytesOf, bytesOf, String.toList_ofList]
    have hlines : (canonicalManifestLines manifest).map bytesOf = canonicalLines { texts with
        schema := 2, releaseSequence := manifest.releaseSequence,
        secureVersion := manifest.secureVersion, imageSize := manifest.imageSize.toNat,
        notBefore := manifest.notBefore.toNat, expiresAt := manifest.expiresAt.toNat,
        signature := signature, imageSHA256 := imageDigest,
        resetQualificationSHA256 := resetDigest } := by
      simp only [canonicalManifestLines, canonicalLines, List.map_cons, List.map_nil]
      rw [hnumberLine _ manifest.expiresAt (by omega), hnumberLine _ manifest.imageSize (by omega),
        hnumberLine _ manifest.notBefore (by omega), hnumberLine _ manifest.schema (by omega),
        hnatLine, hnatLine, hschema, halgorithm]
      simp only [bytesOf_append, line, hsame.board, hsame.channel, hsame.imageSHA256Hex, hsame.imageURL,
        hsame.project, hsame.releaseID, hsame.resetHex, hsame.signingKeyID, hsame.version]
      rfl
    rw [canonicalText, ← hlines, canonicalManifest, List.flatMap_map]

end Accepted

/-! ## Agreement -/

theorem fieldsExactLoop_iff : fieldsExactLoop seen
    names = true ↔ (∀ name ∈ names, name.bytes ∈ fieldNames.map bytesOf ∧ name.bytes ∉ seen) ∧
    (names.map CString.bytes).Nodup ∧ ∀ field ∈ fieldNames, bytesOf field ∈ seen ∨ bytesOf field ∈
    names.map CString.bytes := by
  induction names generalizing seen with
  | nil => simp [fieldsExactLoop]
  | cons name names ih =>
    rw [fieldsExactLoop]
    split
    next hrefused => grind
    next haccepted =>
      simp only [not_or, not_not] at haccepted
      rw [ih]
      simp only [List.mem_cons, List.map_cons, List.nodup_cons, not_or, forall_eq_or_imp, List.mem_map]
      constructor
      · grind
      · grind

/-- What a payload needs for the device, beyond what the registry checks. -/
def Portable (payload : List UInt8) : Prop :=
  ∃ members, parse (decodeRunes payload) = some (.obj members) ∧ Exact members ∧
    ∀ url, ("image_url", .str url) ∈ members →
      63 ∉ bytesOf url ∧ 35 ∉ bytesOf url ∧ (authorityOf (bytesOf url)).length ≤ authorityMax

section Agreement

variable {payload : List UInt8} {members : List (String × Json)} {manifest : ManifestDocument}
  {nodes : List (CString × CJson)}

/-- The device finds its names exactly where all members have the names of fields and every field has
a member. -/
theorem rootFieldsExact_iff (hshows : List.Forall₂ ShowsMember members nodes) (hnodup : (members.map
    Prod.fst).Nodup) : rootFieldsExact (.object nodes) = true ↔ (∀ member ∈ members, member.1 ∈
    fieldNames) ∧ ∀ field ∈ fieldNames, field ∈ members.map Prod.fst := by
  have hbytes : (nodes.map Prod.fst).map CString.bytes = (members.map Prod.fst).map bytesOf := by
    rw [List.map_map, List.map_map]
    exact map_bytes_eq hshows
  have hmem : ∀ {name : String} {names : List String}, bytesOf name ∈ names.map bytesOf ↔ name ∈ names :=
    List.mem_map_of_injective fun _ _ => bytesOf_injective
  rw [rootFieldsExact, fieldsExactLoop_iff, hbytes]
  constructor
  · grind
  · rintro ⟨hnames, hfields⟩
    refine ⟨fun name hname => ⟨?_, List.not_mem_nil⟩, ?_, fun field hfield => .inr (hmem.mpr (hfields field hfield))⟩
    · have hmember : name.bytes ∈ (members.map Prod.fst).map bytesOf := by
        rw [← hbytes]
        exact List.mem_map_of_mem hname
      obtain ⟨other, hother, heq⟩ := List.mem_map.mp hmember
      obtain ⟨member, hmember, rfl⟩ := List.mem_map.mp hother
      rw [← heq]
      exact hmem.mpr (hnames member hmember)
    · exact hnodup.map fun _ _ => bytesOf_injective

theorem numberItem_of_parseFields (h : parseFields root = some parsed) :
    ∃ valuedouble, root.numberItem "secure_version" = some valuedouble := by
  simp only [parseFields, Option.bind_eq_bind, Option.bind_eq_some_iff] at h
  obtain ⟨_, -, _, -, numbers, hnumbers, -⟩ := h
  simp only [parseNumbers, Option.bind_eq_bind, Option.bind_eq_some_iff] at hnumbers
  obtain ⟨_, -, secureVersion, hsecure, -⟩ := hnumbers
  cases hitem : root.numberItem "secure_version" with
  | none =>
    rw [hitem] at hsecure
    cases hsecure
  | some valuedouble => exact ⟨valuedouble, rfl⟩

variable {cJSON : CJsonParser} (hread : ReadsObjects cJSON)

include hread

theorem Accepted.exists_manifestParse (h : Accepted payload members manifest) (hsize :
    payload.length ≤ manifestMaxBytes) (hportable : Portable payload) : ∃ parsed, manifestParse
    cJSON payload = some parsed ∧ canonicalText parsed = canonicalManifest manifest := by
  obtain ⟨others, hparse, hexact, hurl⟩ := hportable
  obtain rfl : others = members := by
    have heq := hparse.symm.trans h.parse
    exact obj.inj (Option.some.inj heq)
  obtain ⟨⟨root, size⟩, hroot⟩ := Option.isSome_iff_exists.mp (hread.isSome h.parse (h.readable hexact))
  obtain ⟨hspace, nodes, rfl, hshows⟩ := hread.shows_of_eq_some h.parse h.holdable hroot
  obtain ⟨parsed, hparsed, himageURL, hcanonical⟩ := h.parseFields hexact hshows
  have hnames : rootFieldsExact (.object nodes) = true := by
    refine (rootFieldsExact_iff hshows h.nodup).mpr ⟨hexact.names, ?_⟩
    intro field hfield
    obtain ⟨f, hf, rfl⟩ := List.mem_map.mp (show field ∈ manifestFields.map Json.Field.name from hfield)
    exact List.mem_map_of_mem (f := Prod.fst) (h.mem_members hexact f hf)
  have hauthority : urlHasAuthority parsed.imageURL none = true := by
    rw [urlHasAuthority_iff, himageURL, urlChecked_iff h.valid.2.2.2.2.2.2.2.2.2.2.2.2.2.2.2.2.2.2]
    exact hurl _ (h.mem_members hexact _ (List.mem_of_getElem? (i := 8) rfl))
  have hclean : containsEscapedNul payload = false :=
    containsEscapedNul_of_clean (closed_clean.of_parse h.parse (h.plain hexact))
  have hnonempty : payload ≠ [] := by
    rintro rfl
    rw [decodeRunes] at hparse
    cases hparse
  refine ⟨parsed, ?_, hcanonical⟩
  simp [manifestParse, hnonempty, hsize, hclean, hroot, hnames, hspace, hparsed, hauthority,
    -List.all_eq_true]

theorem Accepted.portable (h : Accepted payload members manifest) {parsed : Manifest}
    (hparsed : manifestParse cJSON payload = some parsed) : Portable payload := by
  simp only [manifestParse, Option.bind_eq_bind, Option.bind_eq_some_iff, Option.guard_eq_some',
    exists_const] at hparsed
  obtain ⟨-, ⟨root, size⟩, hroot, hnames, -, fields, hfields, hauthority, -⟩ := hparsed
  obtain ⟨-, nodes, rfl, hshows⟩ := hread.shows_of_eq_some h.parse h.holdable hroot
  obtain ⟨hexact, hpresent⟩ := (rootFieldsExact_iff hshows h.nodup).mp hnames
  -- The node of the secure version is a number, so the member is one.
  have hsecure : ∃ literal, ("secure_version", .num literal) ∈ members := by
    obtain ⟨⟨name, json⟩, hmem, rfl⟩ := List.mem_map.mp (hpresent "secure_version" (by decide))
    obtain ⟨node, hnode, hshown⟩ := objectItem_of_mem hshows h.nodup hmem
    obtain ⟨valuedouble, hnumber⟩ := numberItem_of_parseFields hfields
    rw [CJson.numberItem] at hnumber
    rw [hnode] at hnumber
    cases node with
    | number =>
      cases json with
      | num literal => exact ⟨literal, hmem⟩
      | _ => cases hshown
    | _ => cases hnumber
  have hmembers : Exact members := ⟨hexact, hsecure⟩
  refine ⟨members, h.parse, hmembers, ?_⟩
  intro url hurl
  have hfield := h.mem_members hmembers _ (List.mem_of_getElem? (i := 8) rfl)
  obtain rfl : manifest.imageURL = url := by
    have hsame := List.inj_on_of_nodup_map h.nodup hfield hurl rfl
    exact str.inj (congrArg Prod.snd hsame)
  obtain ⟨built, hbuilt, himageURL, -⟩ := h.parseFields hmembers hshows
  obtain rfl : fields = built := Option.some.inj (hfields.symm.trans hbuilt)
  rw [urlHasAuthority_iff, himageURL] at hauthority
  exact (urlChecked_iff h.valid.2.2.2.2.2.2.2.2.2.2.2.2.2.2.2.2.2.2).mp hauthority

/-- Of the payloads that the registry accepts, the device accepts the portable ones. Both sides build
the same canonical text for every payload that both accept. -/
theorem manifest_agreement {Key : Type} (verifyASN1 : Key → Vector UInt8 32 → List UInt8 → Bool)
    (keys : Std.ExtTreeMap String Key) (hsize : payload.length ≤ manifestMaxBytes) (h :
    verifyManifest verifyASN1 keys payload = .ok manifest) : ((∃ parsed, manifestParse cJSON payload
    = some parsed ∧ canonicalText parsed = canonicalManifest manifest) ↔ Portable payload) ∧ ∀
    parsed, manifestParse cJSON payload = some parsed → canonicalText parsed = canonicalManifest
    manifest := by
  obtain ⟨members, haccepted⟩ := accepted_of_verifyManifest h
  constructor
  · constructor
    · rintro ⟨parsed, hparsed, -⟩
      exact haccepted.portable hread hparsed
    · exact haccepted.exists_manifestParse hread hsize
  · intro parsed hparsed
    obtain ⟨built, hbuilt, hcanonical⟩ :=
      haccepted.exists_manifestParse hread hsize (haccepted.portable hread hparsed)
    rw [hparsed] at hbuilt
    rw [Option.some.inj hbuilt, hcanonical]

end Agreement

/-! ## A manifest with and without its secure version -/

namespace AgreementExample

def digest : String := "0000000000000000000000000000000000000000000000000000000000000000"

def document : ManifestDocument where
  schema := 2
  releaseID := "r1"
  project := "p"
  board := "b"
  channel := "c"
  version := "1.0"
  releaseSequence := 1
  secureVersion := 0
  imageURL := "https://h/f"
  imageSize := 1024
  imageSHA256 := digest
  resetQualificationSHA256 := digest
  notBefore := 1609459200
  expiresAt := 1609459201
  signingKeyID := "k"
  signatureAlgorithm := "ECDSA_P256_SHA256"
  signatureB64URL := "AAAAAAAAAAA"

def keys : Std.ExtTreeMap String Unit := Std.ExtTreeMap.insert ∅ "k" ()

/-- The object that is written from some of the fields. -/
def membersOf (part : List (Json.Field ManifestDocument)) : List (String × Json) :=
  part.map fun f => (f.name, f.get document)

def payloadOf (part : List (Json.Field ManifestDocument)) : List UInt8 :=
  utf8 (render (.obj (membersOf part)))

/-- The fields without the secure version. -/
def incomplete : List (Json.Field ManifestDocument) :=
  manifestFields.filter fun f => f.name ≠ "secure_version"

theorem parse_payloadOf {part : List (Json.Field ManifestDocument)} (hpart : part ⊆ manifestFields)
    : parse (decodeRunes (payloadOf part)) = some (.obj (membersOf part)) := by
  have hvalid : ∀ f ∈ manifestFields, (f.get document).Valid := by
    simp only [manifestFields, List.forall_mem_cons]
    exact ⟨valid_int _, trivial, trivial, trivial, trivial, trivial, valid_nat _,
      valid_nat _, trivial, valid_int _, trivial, trivial, valid_int _,
      valid_int _, trivial, trivial, trivial, nofun⟩
  have hmembers : (obj (membersOf part)).Valid := by
    rw [Json.Valid, validMembers_iff]
    intro member hmember
    obtain ⟨f, hf, rfl⟩ := List.mem_map.mp hmember
    exact hvalid f (hpart hf)
  have hparse := parse_render hmembers fun c hc => absurd hc List.not_mem_nil
  rwa [payloadOf, decodeRunes_utf8, ← List.append_nil (render _)]

theorem verifyManifest_payloadOf {part : List (Json.Field ManifestDocument)}
    (hpart : part ⊆ manifestFields) (hunique : noDuplicateNames (.obj (membersOf part)) = true)
    (hfold : part.foldlM (fun acc f => f.set (f.get document) acc) .zero = some document) :
    verifyManifest (fun _ _ _ => true) keys (payloadOf part) = .ok document := by
  have hdecode : decodeStrict (payloadOf part) = .ok document := by
    rw [decodeStrict, parse_payloadOf hpart]
    dsimp only
    rw [if_neg (not_not.mpr hunique), membersOf, decode_obj (by decide) hpart, hfold]
  have hvalid : document.Valid := by decide +kernel
  have hkey : keys[document.signingKeyID]? = some () := by
    simp [keys, document]
  have hsignature : Base64.decode document.signatureB64URL.toList = some (List.replicate 8 0) := by
    decide +kernel
  have hencode : Base64.encodeToString (List.replicate 8 0) = document.signatureB64URL := by
    decide +kernel
  simp only [verifyManifest, hdecode, ok_bind, failIf_of_neg (not_not.mpr hvalid), hkey, hsignature,
    List.length_replicate, hencode]
  rfl

theorem portable_payloadOf : Portable (payloadOf manifestFields) := by
  refine ⟨membersOf manifestFields, parse_payloadOf (List.Subset.refl _), ⟨?_, ?_⟩, ?_⟩
  · intro member hmember
    obtain ⟨f, hf, rfl⟩ := List.mem_map.mp hmember
    exact List.mem_map_of_mem (f := Json.Field.name) hf
  · exact ⟨_, List.mem_of_getElem? (i := 7) rfl⟩
  · intro url hurl
    have hmember : ("image_url", str document.imageURL) ∈ membersOf manifestFields :=
      List.mem_of_getElem? (i := 8) rfl
    have hnodup : ((membersOf manifestFields).map Prod.fst).Nodup := by decide
    cases List.inj_on_of_nodup_map hnodup hmember hurl rfl
    decide

/-- The whole manifest is read by both sides. -/
theorem manifest_agreement_complete : ∃ parsed, manifestParse reference (payloadOf manifestFields) =
    some parsed ∧ canonicalText parsed = canonicalManifest document :=
  (manifest_agreement readsObjects_reference (fun _ _ _ => true) keys (by decide +kernel)
    (verifyManifest_payloadOf (List.Subset.refl _) (by decide +kernel) rfl)).1.mpr portable_payloadOf

/-- The registry accepts a manifest without a secure version, and the device refuses it. -/
theorem incomplete_manifest_refused : (payloadOf incomplete).length ≤ manifestMaxBytes ∧
    verifyManifest (fun _ _ _ => true) keys (payloadOf incomplete) = .ok document ∧ manifestParse
    reference (payloadOf incomplete) = none := by
  have hpart : incomplete ⊆ manifestFields := List.filter_subset_self _
  have hverified := verifyManifest_payloadOf hpart (by decide +kernel) rfl
  refine ⟨by decide +kernel, hverified, ?_⟩
  cases hparsed : manifestParse reference (payloadOf incomplete) with
  | none => rfl
  | some parsed =>
    obtain ⟨members, haccepted⟩ := accepted_of_verifyManifest hverified
    obtain ⟨others, hparse, ⟨-, literal, hmem⟩, -⟩ := haccepted.portable readsObjects_reference hparsed
    rw [parse_payloadOf hpart] at hparse
    cases hparse
    have hname : "secure_version" ∈ (membersOf incomplete).map Prod.fst :=
      List.mem_map_of_mem (f := Prod.fst) hmem
    exact absurd hname (by decide)

end AgreementExample

end XiaozhiPlatform.OtaReleases
