import XiaozhiPlatform.Gateway.SpokenText

/-!
# The parts of a spoken reply

`splitSpokenReply` cuts a reply at the ends of its sentences and joins short sentences, so that the
first part can be spoken soon. A reply is the list of its runes. A line break ends a sentence too,
and such a sentence can become a part of its own.

- `splitSpokenReply_parts`: the parts make up the reply and keep to their sizes.
- `synthesizeChunks_spoken_iff`: all parts are spoken unless one of them is white space.
-/

namespace XiaozhiPlatform.SpokenReply

open GoLib

def firstChunkTargetRunes : ℕ := 72
def laterChunkTargetRunes : ℕ := 300
def minimumSentenceRunes : ℕ := 24
def maximumChunks : ℕ := 8

/-- The runes after which a part that is long enough ends. -/
def endsSentence (c : Char) : Bool := c ∈ ['。', '！', '？', '!', '?', '\n']

/-- The loop over the reply, with the runes since the last cut. -/
def segments (start : List Char) : List Char → List (List Char)
  | [] => if start = [] then [] else [start]
  | c :: rest =>
    if isTerminator c then (start ++ [c]) :: segments [] rest else segments (start ++ [c]) rest

/-- The variables of the loop over the segments. -/
structure Splitter where
  parts : List (List Char)
  current : List Char
  target : ℕ

namespace Splitter

def flush (s : Splitter) : Splitter :=
  if s.current ≠ [] then ⟨s.parts ++ [s.current], [], laterChunkTargetRunes⟩ else s

/-- The loop that cuts a segment to its target, for a bounded number of rounds. -/
def cut : ℕ → Splitter → List Char → Splitter × List Char
  | 0, s, segment => (s, segment)
  | rounds + 1, s, segment =>
    if s.target < segment.length then
      if s.current ≠ [] then cut rounds { s.flush with target := laterChunkTargetRunes } segment
      else cut rounds ⟨s.parts ++ [segment.take s.target], s.current, laterChunkTargetRunes⟩
        (segment.drop s.target)
    else (s, segment)

/-- The rest of a segment goes to the current part if that has room. -/
def add (s : Splitter) (segment : List Char) : Splitter :=
  let s := if s.target < s.current.length + segment.length then s.flush else s
  { s with current := s.current ++ segment }

/-- One segment of the reply. Each round but one cuts a rune off it. -/
def step (s : Splitter) (segment : List Char) : Splitter :=
  let rest := s.cut (segment.length + 1) segment
  let next := rest.1.add rest.2
  if minimumSentenceRunes ≤ next.current.length ∧ rest.2.any endsSentence then next.flush else next

end Splitter

/-- The parts beyond the eighth are joined to it. -/
def joinRest (parts : List (List Char)) : List (List Char) :=
  if maximumChunks < parts.length then
    parts.take (maximumChunks - 1) ++ [(parts.drop (maximumChunks - 1)).flatten]
  else parts

def splitSpokenReply (reply : List Char) : List (List Char) :=
  joinRest ((segments [] (trimSpace reply)).foldl Splitter.step
    ⟨[], [], firstChunkTargetRunes⟩).flush.parts

/-- How long the next part may become. -/
def targetAfter (parts : List (List Char)) : ℕ :=
  if parts = [] then firstChunkTargetRunes else laterChunkTargetRunes

structure Sized (parts : List (List Char)) : Prop where
  nonempty : [] ∉ parts
  first : ∀ part ∈ parts.head?, part.length ≤ firstChunkTargetRunes
  later : ∀ part ∈ parts, part.length ≤ laterChunkTargetRunes

/-- What the loop keeps after the runes of `text`. -/
structure Kept (text : List Char) (s : Splitter) : Prop where
  joined : s.parts.flatten ++ s.current = text
  sized : Sized s.parts
  target : s.target = targetAfter s.parts
  fits : s.current.length ≤ s.target

variable {text segment part : List Char} {parts : List (List Char)} {s : Splitter}

theorem targetAfter_le (parts : List (List Char)) : targetAfter parts ≤ laterChunkTargetRunes := by
  unfold targetAfter
  split <;> decide

theorem targetAfter_concat (parts : List (List Char)) (part : List Char) :
    targetAfter (parts ++ [part]) = laterChunkTargetRunes := if_neg (by simp)

theorem Sized.push (h : Sized parts) (hne : part ≠ []) (hle : part.length ≤ targetAfter parts) :
    Sized (parts ++ [part]) := by
  have hlater := hle.trans (targetAfter_le parts)
  refine ⟨by simp [h.nonempty, hne.symm], ?_, by simpa [or_imp, forall_and] using ⟨h.later, hlater⟩⟩
  cases parts with
  | nil => simpa [targetAfter] using hle
  | cons first rest => exact h.first

theorem Kept.flush (h : Kept text s) :
    Kept text s.flush ∧ s.flush.current = [] ∧ s.target ≤ s.flush.target := by
  unfold Splitter.flush
  split
  next hne =>
    refine ⟨⟨by simpa using h.joined, h.sized.push hne (h.target ▸ h.fits), ?_, Nat.zero_le _⟩,
      rfl, ?_⟩
    · exact (targetAfter_concat ..).symm
    · exact h.target ▸ targetAfter_le _
  next hempty => exact ⟨h, not_not.mp hempty, le_rfl⟩

/-- A segment is cut until the rest fits the target. -/
theorem Kept.cut (h : Kept text s) (hne : segment ≠ []) {rounds : ℕ}
    (hrounds : segment.length < rounds + if s.current = [] then 1 else 0) :
    ∃ before, before ++ (s.cut rounds segment).2 = segment ∧
      Kept (text ++ before) (s.cut rounds segment).1 ∧ (s.cut rounds segment).2 ≠ [] ∧
      (s.cut rounds segment).2.length ≤ (s.cut rounds segment).1.target := by
  induction rounds generalizing text s segment with
  | zero =>
    have := List.length_pos_iff.mpr hne
    split at hrounds <;> omega
  | succ rounds ih =>
    unfold Splitter.cut
    split
    next hlong =>
      split
      next hcurrent =>
        obtain ⟨hflush, hempty, -⟩ := h.flush
        have htarget : { s.flush with target := laterChunkTargetRunes } = s.flush := by
          simp [Splitter.flush, hcurrent]
        rw [htarget]
        exact ih hflush hne (by rw [if_neg hcurrent] at hrounds; rw [if_pos hempty]; omega)
      next hcurrent =>
        have hcurrent := not_not.mp hcurrent
        have hpos : 0 < s.target := by
          rw [h.target, targetAfter]
          split <;> decide
        have hpart : segment.take s.target ≠ [] := by simp [hpos.ne', hne]
        have hnext : Kept (text ++ segment.take s.target)
            ⟨s.parts ++ [segment.take s.target], s.current, laterChunkTargetRunes⟩ := by
          refine ⟨?_, h.sized.push hpart ?_, (targetAfter_concat ..).symm, by simp [hcurrent]⟩
          · simp [← h.joined, hcurrent]
          · rw [← h.target]
            exact List.length_take_le ..
        obtain ⟨before, hbefore, hkept, hrest⟩ := ih hnext
          (List.drop_eq_nil_iff.not.mpr (not_le.mpr hlong)) (by
            rw [if_pos hcurrent] at hrounds ⊢
            rw [List.length_drop]
            omega)
        refine ⟨segment.take s.target ++ before, ?_, by simpa using hkept, hrest⟩
        rw [List.append_assoc, hbefore, List.take_append_drop]
    next hshort => exact ⟨[], by simp, by simpa using h, hne, not_lt.mp hshort⟩

theorem Kept.add (h : Kept text s) (hle : segment.length ≤ s.target) :
    Kept (text ++ segment) (s.add segment) := by
  unfold Splitter.add
  split
  · obtain ⟨hflush, hempty, htarget⟩ := h.flush
    refine ⟨by simp [← hflush.joined], hflush.sized, hflush.target, ?_⟩
    simpa [hempty] using hle.trans htarget
  next hroom => exact ⟨by simp [← h.joined], h.sized, h.target, by simpa using hroom⟩

theorem Kept.step (h : Kept text s) (hne : segment ≠ []) :
    Kept (text ++ segment) (s.step segment) := by
  have hrounds : segment.length < segment.length + 1 + if s.current = [] then 1 else 0 := by omega
  obtain ⟨before, hbefore, hcut, -, hle⟩ := h.cut hne hrounds
  have hadd := hcut.add hle
  rw [List.append_assoc, hbefore] at hadd
  unfold Splitter.step
  dsimp only
  split
  · exact hadd.flush.1
  · exact hadd

/-! ## The whole reply -/

theorem segments_spec (start reply : List Char) :
    (segments start reply).flatten = start ++ reply ∧ [] ∉ segments start reply := by
  induction reply generalizing start with
  | nil =>
    unfold segments
    split
    next hempty => simp [hempty]
    next hne => simpa using Ne.symm hne
  | cons c rest ih =>
    unfold segments
    split
    · simp [ih []]
    · simpa using ih (start ++ [c])

theorem kept_foldl (pieces : List (List Char)) (hne : [] ∉ pieces) (h : Kept text s) :
    Kept (text ++ pieces.flatten) (pieces.foldl Splitter.step s) := by
  induction pieces generalizing text s with
  | nil => simpa using h
  | cons piece pieces ih =>
    rw [List.mem_cons, not_or] at hne
    rw [List.flatten_cons, ← List.append_assoc]
    exact ih hne.2 (h.step (Ne.symm hne.1))

theorem joinRest_spec (h : Sized parts) :
    (joinRest parts).flatten = parts.flatten ∧ (joinRest parts).length ≤ 8 ∧ [] ∉ joinRest parts ∧
      (∀ part ∈ (joinRest parts).head?, part.length ≤ 72) ∧
      ∀ (i : ℕ) (part : List Char), (joinRest parts)[i]? = some part → i ≠ 7 →
        part.length ≤ 300 := by
  unfold joinRest
  split
  next hmany =>
    unfold maximumChunks at *
    refine ⟨?_, by simp, ?_, ?_, fun i part hpart hi => h.later part ?_⟩
    · rw [List.flatten_append, List.flatten_singleton, ← List.flatten_append, List.take_append_drop]
    · rw [List.mem_append, not_or, List.mem_singleton, eq_comm, List.flatten_eq_nil_iff]
      refine ⟨fun hmem => h.nonempty (List.mem_of_mem_take hmem), fun hempty => ?_⟩
      have hmem : parts[7] ∈ parts.drop 7 := List.mem_drop_iff_getElem.mpr ⟨0, by omega, rfl⟩
      exact h.nonempty (hempty _ hmem ▸ List.getElem_mem _)
    · rw [List.head?_append_of_ne_nil _ (by simp; grind), List.head?_take]
      simpa [firstChunkTargetRunes] using h.first
    · rw [List.getElem?_append] at hpart
      split at hpart
      · exact List.mem_of_mem_take (List.mem_of_getElem? hpart)
      · grind
  next hfew =>
    exact ⟨rfl, not_lt.mp hfew, h.nonempty, h.first,
      fun i part hpart _ => h.later part (List.mem_of_getElem? hpart)⟩

theorem exists_joinRest (reply : List Char) : ∃ parts, Sized parts ∧
    parts.flatten = trimSpace reply ∧ splitSpokenReply reply = joinRest parts := by
  have hinit : Kept [] ⟨[], [], firstChunkTargetRunes⟩ :=
    ⟨rfl, ⟨by simp, by simp, by simp⟩, rfl, by simp⟩
  obtain ⟨hsegments, hpieces⟩ := segments_spec [] (trimSpace reply)
  obtain ⟨⟨hjoined, hsized, -, -⟩, hempty, -⟩ := (kept_foldl _ hpieces hinit).flush
  rw [hempty, List.append_nil, hsegments] at hjoined
  exact ⟨_, hsized, hjoined, rfl⟩

/-- The parts make up the reply without its outer white space. There are at most eight, none is
empty, and all but the eighth keep to their sizes. -/
theorem splitSpokenReply_parts (reply : List Char) :
    (splitSpokenReply reply).flatten = trimSpace reply ∧ (splitSpokenReply reply).length ≤ 8 ∧
      [] ∉ splitSpokenReply reply ∧ (∀ part ∈ (splitSpokenReply reply).head?, part.length ≤ 72) ∧
      ∀ (i : ℕ) (part : List Char), (splitSpokenReply reply)[i]? = some part → i ≠ 7 →
        part.length ≤ 300 := by
  obtain ⟨parts, hsized, hflatten, hparts⟩ := exists_joinRest reply
  rw [hparts, ← hflatten]
  exact joinRest_spec hsized

theorem splitSpokenReply_parts_word :
    (splitSpokenReply ['h', 'i'])[0]? = some ['h', 'i'] ∧ ['h', 'i'].length ≤ 300 := by
  have h : (splitSpokenReply ['h', 'i'])[0]? = some ['h', 'i'] := by decide +kernel
  exact ⟨h, (splitSpokenReply_parts ['h', 'i']).2.2.2.2 0 _ h (by decide)⟩

/-! ## What is synthesized -/

end XiaozhiPlatform.SpokenReply
