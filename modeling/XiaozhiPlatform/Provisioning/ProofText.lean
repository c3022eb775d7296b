import XiaozhiPlatform.GoLib.Lines
import XiaozhiPlatform.GoLib.Unicode
import XiaozhiPlatform.Provisioning.Proof

/-!
# The text of a proof

The `Canonical…Proof` functions join the fields of a proof with line feeds, after a domain, the method
and a path that belong to the scope. The fields that `authorize` reads have no line feeds, so the
text determines the scope and all of the fields.
-/

namespace XiaozhiPlatform.Provisioning

open GoLib Auth

section

variable (scope : ProofScope) (fields : Fields)

/-- The lines that only some scopes have. -/
def scopeLines : List String :=
  match scope with
  | .session => []
  | .agentToken => []
  | .otaOffer => [fields.board, fields.channel, fields.releaseSequence, fields.version]
  | .deviceClaim => [fields.claim]
  | .actionConsentChallenge => [fields.bodySHA256]
  | .actionConsentResult => [fields.bodySHA256]

/-- The lines of a proof. -/
def proofLines : List String :=
  [proofDomain scope, "POST", proofPath scope, fields.deviceID, fields.clientID, fields.timestamp,
    fields.nonce] ++ scopeLines scope fields

/-- The fields of a scope, with the others empty. -/
def Fields.restrict : Fields :=
  let common : Fields := ⟨fields.deviceID, fields.clientID, fields.timestamp, fields.nonce, "", "", "",
    "", "", ""⟩
  match scope with
  | .session => common
  | .agentToken => common
  | .otaOffer =>
    { common with
      board := fields.board
      channel := fields.channel
      releaseSequence := fields.releaseSequence
      version := fields.version }
  | .deviceClaim => { common with claim := fields.claim }
  | .actionConsentChallenge => { common with bodySHA256 := fields.bodySHA256 }
  | .actionConsentResult => { common with bodySHA256 := fields.bodySHA256 }

/-- The checks of the fields that only some scopes have. -/
def ValidScoped : Prop :=
  match scope with
  | .session => True
  | .agentToken => True
  | .otaOffer => ValidIdentifier fields.board 32 ∧ ValidIdentifier fields.channel 32 ∧
      ValidVersion fields.version ∧ ValidReleaseSequence fields.releaseSequence
  | .deviceClaim => Base64.Canonical fields.claim 32
  | .actionConsentChallenge => ValidSHA256 fields.bodySHA256
  | .actionConsentResult => ValidSHA256 fields.bodySHA256

end

/-- The syntax that `authorize` asks of the fields of a scope. -/
structure Fields.Valid (scope : ProofScope) (fields : Fields) : Prop where
  deviceID : ValidIdentifier fields.deviceID 64
  clientID : ValidIdentifier fields.clientID 64
  timestamp : ValidTimestamp fields.timestamp
  nonce : ValidNonce fields.nonce
  extra : ValidScoped scope fields
  restrict : fields.restrict scope = fields

variable {scope other : ProofScope} {fields others : Fields}

theorem readScoped_eq_ok
    (hcommon : common.restrict .session = common)
    (h : readScoped scope request body common = .ok fields) :
    fields.deviceID = common.deviceID ∧ fields.clientID = common.clientID ∧
      fields.timestamp = common.timestamp ∧ fields.nonce = common.nonce ∧
      ValidScoped scope fields ∧ fields.restrict scope = fields := by
  rw [← hcommon] at h ⊢
  have hbody : ∀ {sha}, readBodySHA256 request body = .ok sha → ValidSHA256 sha := by
    intro sha hread
    simp only [readBodySHA256, bind_eq_ok, failIf_eq_ok, exists_const, not_or, not_not] at hread
    obtain ⟨value, -, ⟨hvalid, -⟩, hread⟩ := hread
    cases hread
    exact hvalid
  cases scope with
  | session | agentToken =>
    cases h
    exact ⟨rfl, rfl, rfl, rfl, trivial, rfl⟩
  | otaOffer =>
    simp only [readScoped, readOTA, bind_eq_ok, failIf_eq_ok, exists_const, not_or, not_not] at h
    obtain ⟨_, ⟨board, -, channel, -, sequence, -, version, -, ⟨hboard, hchannel, hversion, hsequence⟩,
      hread⟩, h⟩ := h
    cases hread
    cases h
    exact ⟨rfl, rfl, rfl, rfl, ⟨hboard, hchannel, hversion, hsequence⟩, rfl⟩
  | deviceClaim =>
    simp only [readScoped, readClaim, bind_eq_ok, failIf_eq_ok, exists_const, not_not] at h
    obtain ⟨_, ⟨claim, -, hclaim, hread⟩, h⟩ := h
    cases hread
    cases h
    exact ⟨rfl, rfl, rfl, rfl, hclaim, rfl⟩
  | actionConsentChallenge | actionConsentResult =>
    simp only [readScoped, bind_eq_ok] at h
    obtain ⟨sha, hread, h⟩ := h
    cases h
    exact ⟨rfl, rfl, rfl, rfl, hbody hread, rfl⟩

theorem valid_of_readFields
    (h : readFields scope request body = .ok (fields, signature)) : fields.Valid scope := by
  simp only [readFields, bind_eq_ok, failIf_eq_ok, exists_const, not_or, not_not] at h
  obtain ⟨deviceID, -, clientID, -, timestamp, -, nonce, -, signatureText, -, ⟨hdevice, hclient⟩, read,
    hread, htimestamp, hnonce, _, -, h⟩ := h
  cases h
  obtain ⟨hdeviceID, hclientID, htime, hnonceText, hscoped, hrestrict⟩ := readScoped_eq_ok rfl hread
  exact ⟨hdeviceID ▸ hdevice, hclientID ▸ hclient, htime ▸ htimestamp, hnonceText ▸ hnonce, hscoped,
    hrestrict⟩

theorem canonical_eq (scope : ProofScope) (fields : Fields) :
    canonical scope fields = "\n".intercalate (proofLines scope fields) ∨
      canonical scope fields = "" ∧ ¬ ValidScoped scope fields := by
  have hpost : "\nPOST\n" = "\n" ++ "POST" ++ "\n" := rfl
  have hcommon : ∀ {text : String}, text = proofDomain scope ++ "\nPOST\n" ++ proofPath scope ++ "\n" ++
      fields.deviceID ++ "\n" ++ fields.clientID ++ "\n" ++ fields.timestamp ++ "\n" ++
      "\n".intercalate (fields.nonce :: scopeLines scope fields) →
        text = "\n".intercalate (proofLines scope fields) := by
    rintro text rfl
    simp only [proofLines, List.cons_append, List.nil_append, String.intercalate_cons_cons, hpost,
      String.append_assoc]
  cases scope with
  | session | agentToken =>
    refine .inl (hcommon ?_)
    rw [canonical, if_neg (by decide), if_neg (by decide), if_neg (by decide), canonicalScopedProof,
      if_neg (by decide)]
    rfl
  | otaOffer =>
    refine .inl (hcommon ?_)
    rw [canonical, if_pos rfl]
    delta canonicalOTAProof
    simp only [scopeLines, String.intercalate_cons_cons, String.intercalate_singleton,
      String.append_assoc]
  | deviceClaim =>
    rw [canonical, if_neg (by decide), if_pos rfl, canonicalDeviceClaimProof]
    split
    next hclaim => exact .inr ⟨rfl, hclaim⟩
    · grind [scopeLines, String.intercalate_cons_cons, String.intercalate_singleton, String.append_assoc]
  | actionConsentChallenge | actionConsentResult =>
    rw [canonical, if_neg (by decide), if_neg (by decide), if_pos (by decide),
      canonicalActionConsentProof]
    split
    next hsha => exact .inr ⟨rfl, hsha.resolve_left (by decide)⟩
    · grind [scopeLines, String.intercalate_cons_cons, String.intercalate_singleton, String.append_assoc]

/-! ## Reading the text -/

variable {value : String}

theorem newline_notMem_of_all {p : Char → Bool} (hp : p '\n' = false)
    (h : ∀ c ∈ value.toList, p c = true) : '\n' ∉ value.toList := by
  intro hmem
  rw [h '\n' hmem] at hp
  cases hp

theorem newline_notMem_base64 : '\n' ∉ (Base64.encodeToString bytes).toList := by
  rw [Base64.encodeToString, String.toList_ofList]
  exact fun hmem => (Base64.isSymbol_ne_newline (Base64.isSymbol_of_mem_encode hmem)).1 rfl

theorem ValidTimestamp.newline_notMem (h : ValidTimestamp value) : '\n' ∉ value.toList := by
  obtain ⟨timestamp, -, hpos, hformat⟩ := h
  rw [← hformat, formatInt, if_neg (by omega)]
  exact fun hmem => absurd (isDigit_of_mem_formatNat hmem) (by decide)

theorem ValidReleaseSequence.newline_notMem (h : ValidReleaseSequence value) :
    '\n' ∉ value.toList := by
  obtain ⟨sequence, -, -, hformat⟩ := h
  rw [← hformat]
  exact fun hmem => absurd (isDigit_of_mem_formatNat hmem) (by decide)

theorem newline_notMem_proofLines (h : fields.Valid scope) :
    ∀ line ∈ proofLines scope fields, '\n' ∉ line.toList := by
  have hidentifier : ∀ {value max}, ValidIdentifier value max → '\n' ∉ value.toList :=
    fun hvalue => newline_notMem_of_all (by decide) hvalue.2.2
  have hdomain : ∀ scope, '\n' ∉ (proofDomain scope).toList := by
    intro scope
    cases scope <;> decide +kernel
  have hpath : ∀ scope, '\n' ∉ (proofPath scope).toList := by
    intro scope
    cases scope <;> decide +kernel
  have hnonce : '\n' ∉ fields.nonce.toList := by
    obtain ⟨nonce, -, -, -, heq⟩ := h.nonce
    exact heq ▸ newline_notMem_base64
  have hscope : ∀ line ∈ scopeLines scope fields, '\n' ∉ line.toList := by
    have hextra := h.extra
    intro line hline
    cases scope with
    | session => cases hline
    | agentToken => cases hline
    | otaOffer =>
      obtain ⟨hboard, hchannel, hversion, hsequence⟩ := hextra
      simp only [scopeLines, List.mem_cons, List.not_mem_nil, or_false] at hline
      rcases hline with rfl | rfl | rfl | rfl
      · exact hidentifier hboard
      · exact hidentifier hchannel
      · exact hsequence.newline_notMem
      · exact newline_notMem_of_all (by decide) hversion.2.2
    | deviceClaim =>
      obtain ⟨bytes, -, heq⟩ := Base64.canonical_iff.mp hextra
      cases List.mem_singleton.mp hline
      exact heq ▸ newline_notMem_base64
    | actionConsentChallenge | actionConsentResult =>
      cases List.mem_singleton.mp hline
      exact newline_notMem_of_all (by decide) hextra.2
  intro line hline
  simp only [proofLines, List.cons_append, List.nil_append, List.mem_cons] at hline
  rcases hline with rfl | rfl | rfl | rfl | rfl | rfl | rfl | hline
  · exact hdomain scope
  · decide
  · exact hpath scope
  · exact hidentifier h.deviceID
  · exact hidentifier h.clientID
  · exact h.timestamp.newline_notMem
  · exact hnonce
  · exact hscope line hline

theorem eq_of_proofDomain_eq (h : proofDomain other = proofDomain scope) : other = scope := by
  revert h
  cases other <;> cases scope <;> decide +kernel

theorem restrict_eq_of_proofLines_eq (h : proofLines scope others = proofLines scope fields) :
    others.restrict scope = fields.restrict scope := by
  simp only [proofLines, List.cons_append, List.nil_append, List.cons.injEq, true_and] at h
  obtain ⟨hdevice, hclient, htimestamp, hnonce, hscope⟩ := h
  cases scope <;>
    simp only [scopeLines, List.cons.injEq, and_true] at hscope <;>
    simp [Fields.restrict, hdevice, hclient, htimestamp, hnonce, hscope]

theorem eq_of_canonical_eq (hvalid : fields.Valid scope) (hrestrict : others.restrict other = others)
    (h : utf8 (canonical other others).toList = utf8 (canonical scope fields).toList) :
    other = scope ∧ others = fields := by
  have htext : canonical other others = canonical scope fields := by
    grind [decodeRunes, decodeRunes_utf8, String.toList_inj]
  have hfields : canonical scope fields = "\n".intercalate (proofLines scope fields) :=
    (canonical_eq scope fields).resolve_right fun hempty => hempty.2 hvalid.extra
  rcases canonical_eq other others with hothers | ⟨hempty, -⟩
  · rw [htext, hfields] at hothers
    have hlines : ['\n'].intercalate ((proofLines other others).map String.toList) =
        ['\n'].intercalate ((proofLines scope fields).map String.toList) := by
      grind [String.toList, String.toList_intercalate]
    have hnewline := newline_notMem_proofLines hvalid
    -- The domains are the first lines, and they name the scopes.
    have hscope : other = scope := by
      refine eq_of_proofDomain_eq (String.toList_inj.mp ?_)
      refine intercalate_head ?_ (hnewline _ List.mem_cons_self) ?_ ?_ hlines
      · cases other <;> decide +kernel
      · simp
      · simp
    subst hscope
    refine ⟨rfl, ?_⟩
    have hlength : ((proofLines other fields).map String.toList).length =
        ((proofLines other others).map String.toList).length := by
      cases other <;> rfl
    have hmap := intercalate_injective hlength (fun line hline => by
      obtain ⟨text, htext, rfl⟩ := List.mem_map.mp hline
      exact hnewline text htext) hlines.symm
    have hsame := List.map_injective_iff.mpr (fun _ _ => String.toList_inj.mp) hmap
    rw [← hrestrict, ← hvalid.restrict]
    exact (restrict_eq_of_proofLines_eq hsame).symm
  · rw [htext, hfields] at hempty
    have hnil := congrArg String.toList hempty
    rw [String.toList_intercalate] at hnil
    simp [proofLines, List.intercalate_cons_cons] at hnil

end XiaozhiPlatform.Provisioning
