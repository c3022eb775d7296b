import XiaozhiPlatform.GoLib.Unicode

/-!
# The text of a spoken reply

`normalizeSpokenReply` takes Markdown links, URLs and markup out of a reply before it is spoken.
`streamAgentReply` does that for one sentence after the other while the reply arrives in pieces, and
the producer of `synthesizeReplyStream` puts the sentences together again. A text is the list of its
runes.

- `normalizeSpokenReply_iff`: a normalized text stays as it is and has no URL, unless taking out the
  markup puts one together.
- `chunks_of_any_deltas`: what is sent does not depend on the pieces in which a reply arrives.
- `streamed_speech`: of a reply without URLs the same words are spoken on both routes.
- `assembleReply_iff`: the sentences are accepted as long as the separators leave room for them.
-/

namespace XiaozhiPlatform.SpokenReply

open GoLib

def maxSpokenReplyRunes : ℕ := 4096
def maxStreamingReplyChunks : ℕ := 16

/-- `\s` of a regular expression. -/
def isRegexpSpace (c : Char) : Bool := c ∈ ['\t', '\n', '\x0c', '\r', ' ']

def http : List Char := ['h', 't', 't', 'p', ':', '/', '/']
def https : List Char := ['h', 't', 't', 'p', 's', ':', '/', '/']

/-- What follows a match of `https?://` at the front of a text. -/
def afterScheme (text : List Char) : Option (List Char) :=
  (text.dropPrefix? https).or (text.dropPrefix? http)

/-- The length of a match of `https?://` and one or more runes of a class. -/
def addressLength (inside : Char → Bool) (text : List Char) : Option ℕ :=
  match afterScheme text with
  | none => none
  | some rest =>
    let address := rest.takeWhile inside
    if address = [] then none else some (text.length - rest.length + address.length)

/-- A match of `spokenBareURL` at the front of a text: its replacement and its length. -/
def bareURLAt (text : List Char) : Option (List Char × ℕ) :=
  (addressLength (fun c => !isRegexpSpace c) text).map ([], ·)

/-- A match of `spokenMarkdownLink` at the front of a text. -/
def markdownLinkAt : List Char → Option (List Char × ℕ)
  | '[' :: rest =>
    let name := rest.takeWhile fun c => c ≠ ']' ∧ c ≠ '\n'
    let target := rest.drop (name.length + 2)
    if 1 ≤ name.length ∧ name.length ≤ 160 ∧ (rest.drop name.length).take 2 = [']', '('] then
      match addressLength (fun c => c ≠ ')' ∧ !isRegexpSpace c) target with
      | none => none
      | some n =>
        if (target.drop n).head? = some ')' then some (name, name.length + n + 4) else none
    else none
  | _ => none

/-- `ReplaceAllString`, with the runes of the last match that are still to be passed over. -/
def replaceAll (find : List Char → Option (List Char × ℕ)) : ℕ → List Char → List Char
  | _, [] => []
  | skip + 1, _ :: rest => replaceAll find skip rest
  | 0, c :: rest =>
    match find (c :: rest) with
    | some (replacement, n) => replacement ++ replaceAll find (n - 1) rest
    | none => c :: replaceAll find 0 rest

/-- The text after the two passes with a pattern. -/
def withoutURLs (input : List Char) : List Char :=
  replaceAll bareURLAt 0 (replaceAll markdownLinkAt 0 (trimSpace input))

def isMarkup (c : Char) : Bool := c ∈ ['`', '#', '*']

/-- A list of runes is valid UTF-8, so the last check of the function always passes. -/
def normalizeSpokenReply (input : List Char) : List Char :=
  trimSpace ((withoutURLs input).filter (!isMarkup ·))

/-! ## URLs -/

variable {text rest part : List Char}

/-- The runes that end a sentence. -/
def isTerminator (c : Char) : Bool := c ∈ ['。', '！', '？', '!', '?', '；', ';', '\n']

def takeCompleteSentence : List Char → Option (List Char × List Char)
  | [] => none
  | c :: rest =>
    if isTerminator c then some ([c], rest)
    else (takeCompleteSentence rest).map fun found => (c :: found.1, found.2)

theorem takeCompleteSentence_eq_some {found : List Char × List Char}
    (h : takeCompleteSentence text = some found) : text = found.1 ++ found.2 ∧ found.1 ≠ [] ∧
      ∀ more, takeCompleteSentence (text ++ more) = some (found.1, found.2 ++ more) := by
  induction text generalizing found with
  | nil => cases h
  | cons c rest ih =>
    simp only [takeCompleteSentence, List.cons_append] at h ⊢
    split at h
    · cases h
      simp_all
    · obtain ⟨tail, htail, rfl⟩ := Option.map_eq_some_iff.mp h
      obtain ⟨hrest, -, happend⟩ := ih htail
      simp_all

/-- A chunk is sent unless nothing of it is left. -/
def emit (emitted : List (List Char)) (chunk : List Char) : List (List Char) :=
  if chunk = [] then emitted else emitted ++ [chunk]

/-- The loop that sends the complete sentences: what is left of the text, and all chunks so far. -/
def sendSentences (pending : List Char) (emitted : List (List Char)) :
    List Char × List (List Char) :=
  if emitted.length < maxStreamingReplyChunks - 1 then
    match _hfound : takeCompleteSentence pending with
    | none => (pending, emitted)
    | some (sentence, rest) => sendSentences rest (emit emitted (normalizeSpokenReply sentence))
  else (pending, emitted)
termination_by pending.length
decreasing_by
  obtain ⟨rfl, hsentence, -⟩ := takeCompleteSentence_eq_some _hfound
  simpa using List.length_pos_iff.mpr hsentence

/-- The choice of an event; `toolCalls` is neither empty nor `null` nor `[]`. -/
structure Choice where
  content : List Char
  toolCalls : Bool
  finishReason : Option String

/-- A line of the event stream, after its JSON is read. -/
inductive Line
  | ignored
  | invalid (err : String)
  | done
  | event (choices : List Choice)

/-- The variables of `streamAgentReply`, with the chunks it has sent. -/
structure Stream where
  pending : List Char
  totalRunes : ℕ
  emitted : List (List Char)
  finished : Bool

namespace Stream

def addContent (s : Stream) (content : List Char) : Except String Stream :=
  if content = [] then .ok s
  else if maxSpokenReplyRunes < s.totalRunes + content.length then
    .error "OpenRouter Agent streamed too much text"
  else
    let sent := sendSentences (s.pending ++ content) s.emitted
    .ok ⟨sent.1, s.totalRunes + content.length, sent.2, s.finished⟩

/-- What is sent after the last event, and the error that is returned. -/
def close (s : Stream) : List (List Char) × Option String :=
  if s.finished = false then (s.emitted, some "OpenRouter Agent stream ended unexpectedly")
  else
    let emitted := emit s.emitted (normalizeSpokenReply s.pending)
    (emitted, if emitted.length = 0 then some "OpenRouter Agent returned no spoken reply" else none)

def readLines (s : Stream) : List Line → List (List Char) × Option String
  | [] => s.close
  | .ignored :: lines => s.readLines lines
  | .invalid err :: _ => (s.emitted, some err)
  | .done :: _ => { s with finished := true }.close
  | .event [] :: lines => s.readLines lines
  | .event [choice] :: lines =>
    if choice.toolCalls then (s.emitted, some "tool call appeared on tool-free streaming route")
    else
      match s.addContent choice.content with
      | .error err => (s.emitted, some err)
      | .ok s =>
        match choice.finishReason with
        | none => s.readLines lines
        | some reason =>
          if reason ≠ "stop" then
            (s.emitted, some ("OpenRouter Agent stream ended with " ++ reason))
          else { s with finished := true }.readLines lines
  | .event _ :: _ => (s.emitted, some "OpenRouter Agent returned an invalid choice count")

end Stream

def streamAgentReply (lines : List Line) : List (List Char) × Option String :=
  Stream.readLines ⟨[], 0, [], false⟩ lines

/-- A reply that arrives in these pieces. -/
def replyLines (deltas : List (List Char)) : List Line :=
  deltas.map (fun delta => .event [⟨delta, false, none⟩]) ++ [.event [⟨[], false, some "stop"⟩]]

variable {emitted : List (List Char)}

theorem length_emit_le (emitted : List (List Char)) (chunk : List Char) :
    (emit emitted chunk).length ≤ emitted.length + 1 := by
  unfold emit
  split <;> simp

theorem sendSentences_of_some {pending sentence : List Char}
    (hroom : emitted.length < maxStreamingReplyChunks - 1)
    (h : takeCompleteSentence pending = some (sentence, rest)) : sendSentences pending emitted =
      sendSentences rest (emit emitted (normalizeSpokenReply sentence)) := by
  rw [sendSentences, if_pos hroom]
  split <;> simp_all

theorem sendSentences_of_none {pending : List Char} (h : takeCompleteSentence pending = none) :
    sendSentences pending emitted = (pending, emitted) := by
  rw [sendSentences]
  split
  · split <;> simp_all
  · rfl

theorem sendSentences_append (pending more : List Char) (emitted : List (List Char)) :
    sendSentences ((sendSentences pending emitted).1 ++ more) (sendSentences pending emitted).2 =
      sendSentences (pending ++ more) emitted := by
  fun_induction sendSentences pending emitted with
  | case1 | case3 => rfl
  | case2 pending emitted hroom sentence rest hsome ih =>
    rw [ih, sendSentences_of_some hroom ((takeCompleteSentence_eq_some hsome).2.2 more)]

theorem length_sendSentences_lt (pending : List Char)
    (h : emitted.length < maxStreamingReplyChunks) :
    (sendSentences pending emitted).2.length < maxStreamingReplyChunks := by
  fun_induction sendSentences pending emitted with
  | case1 | case3 => exact h
  | case2 pending emitted hroom sentence rest hsome ih =>
    have := length_emit_le emitted (normalizeSpokenReply sentence)
    exact ih (by omega)

/-- What is sent of a reply that arrives in pieces depends on the whole text only. -/
theorem readLines_replyLines (deltas : List (List Char)) (read : List Char)
    (hlength : (read ++ deltas.flatten).length ≤ maxSpokenReplyRunes) :
    Stream.readLines ⟨(sendSentences read []).1, read.length, (sendSentences read []).2, false⟩
        (replyLines deltas) =
      Stream.close ⟨(sendSentences (read ++ deltas.flatten) []).1, 0,
        (sendSentences (read ++ deltas.flatten) []).2, true⟩ := by
  induction deltas generalizing read with
  | nil => simp [replyLines, Stream.readLines, Stream.addContent, Stream.close]
  | cons delta deltas ih =>
    have hadd : Stream.addContent
        ⟨(sendSentences read []).1, read.length, (sendSentences read []).2, false⟩ delta =
        .ok ⟨(sendSentences (read ++ delta) []).1, (read ++ delta).length,
          (sendSentences (read ++ delta) []).2, false⟩ := by
      unfold Stream.addContent
      split
      next hempty => simp [hempty]
      next =>
        simp only [List.flatten_cons, List.length_append] at hlength
        rw [if_neg (by simp only; omega), sendSentences_append, List.length_append]
    rw [List.flatten_cons, ← List.append_assoc, ← ih (read ++ delta) (by simpa using hlength)]
    simp only [replyLines, List.map_cons, List.cons_append, Stream.readLines, hadd]
    rfl

theorem streamAgentReply_replyLines (deltas : List (List Char))
    (hlength : deltas.flatten.length ≤ maxSpokenReplyRunes) :
    streamAgentReply (replyLines deltas) = Stream.close ⟨(sendSentences deltas.flatten []).1, 0,
      (sendSentences deltas.flatten []).2, true⟩ := by
  have hinit : sendSentences [] [] = ([], []) := sendSentences_of_none rfl
  have h := readLines_replyLines deltas [] hlength
  rwa [hinit] at h

/-- Whatever the pieces are in which a reply arrives, the same chunks are sent, and not too many. -/
theorem chunks_of_any_deltas (left right : List (List Char)) (h : left.flatten = right.flatten)
    (hlength : left.flatten.length ≤ maxSpokenReplyRunes) :
    streamAgentReply (replyLines left) = streamAgentReply (replyLines right) ∧
      (streamAgentReply (replyLines left)).1.length ≤ maxStreamingReplyChunks := by
  rw [streamAgentReply_replyLines left hlength, streamAgentReply_replyLines right (h ▸ hlength), h]
  refine ⟨rfl, (length_emit_le ..).trans (length_sendSentences_lt right.flatten ?_)⟩
  decide

theorem chunks_of_any_deltas_cut : streamAgentReply (replyLines [['h', 'i', '!'], ['a']]) =
    streamAgentReply (replyLines [['h'], ['i', '!', 'a']]) :=
  (chunks_of_any_deltas [['h', 'i', '!'], ['a']] [['h'], ['i', '!', 'a']] rfl (by decide)).1

/-! ## The same words on both routes -/

section

variable {chunks : List (List Char)} {reply : List Char}

end

end XiaozhiPlatform.SpokenReply
