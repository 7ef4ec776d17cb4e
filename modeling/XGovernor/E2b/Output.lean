import XGovernor.E2b.Reading

/-!
# The end of a stream and the guard prefix

Two promises of the read loop, for every byte string and every way to cut it into chunks: success
means that the end of the process was seen, and the supervisor's prefix stays inside.  Both hold
only under a condition on the stream.  A body that ends cleanly counts as a success whether or not
an end event was in it.  The prefix is removed after a chunk that was decoded without a failure,
and only in full, so a chunk that also brings a bad frame, a body that ends inside the prefix and
a plain document all let it through.
-/

namespace XGovernor.E2b

open Lib ConnectStartStreamDecoder StartStreamCollector

/-! ## The end event -/

/-- The response carries the end of the process. -/
def StartResponse.IsEnd (response : StartResponse) : Prop :=
  ∃ event, response.event = some event ∧ event.end.isSome = true

/-- A frame that is read as an event and carries the end of the process. -/
def Frame.IsEnd (codec : Codec) (frame : Frame) : Prop :=
  frame.flags &&& 2 = 0 ∧ frame.flags &&& 1 = 0 ∧ frame.payload ≠ [] ∧
    ∃ response, codec.startResponse frame.payload = .ok response ∧ response.IsEnd

/-- Among the bytes is an end event, before any bad frame. -/
def EndReceived (codec : Codec) (bytes : Bytes) : Prop :=
  match modeOf bytes with
  | some .framed => ∃ before frame after, frameCutter.frames bytes = before ++ frame :: after ∧
      (consume (applyFrame codec) before {}).1 = .ok () ∧ frame.IsEnd codec
  | some .plainJson => ∃ response, codec.startResponse bytes = .ok response ∧ response.IsEnd
  | none => False

theorem completed_applyData (codec : Codec) (data : DataEvent) (c : StartStreamCollector) :
    (c.applyData codec data).2.completed = c.completed := by
  have hpart : ∀ label part extend (c : StartStreamCollector),
      (∀ bytes c, (extend bytes c : StartStreamCollector).completed = c.completed) →
      (collectPart codec label part extend c).2.completed = c.completed := by
    intro label part extend c hextend
    unfold collectPart
    split
    · rfl
    · split
      · rfl
      · exact hextend _ _
  have hout := hpart "stdout" data.stdout .extendStdout c fun _ _ => rfl
  unfold applyData
  split
  · rename_i heq
    rwa [heq] at hout
  · rename_i c₁ heq
    rw [heq] at hout
    have herr := hpart "stderr" data.stderr .extendStderr c₁ fun _ _ => rfl
    split
    · rename_i heq
      rw [heq] at herr
      exact herr.trans hout
    · rename_i c₂ heq
      rw [heq] at herr
      exact (hpart "pty" data.pty .extendStdout c₂ fun _ _ => rfl).trans (herr.trans hout)

variable {c : StartStreamCollector} {response : StartResponse}

/-- Only the end of the process completes the collector. -/
theorem isEnd_of_apply {codec}
    (hbef : c.completed = false) (hafter : (c.apply codec response).2.completed = true) :
    response.IsEnd := by
  unfold apply at hafter
  split at hafter
  · simp [hbef] at hafter
  · rename_i event hevent
    refine ⟨event, hevent, ?_⟩
    split at hafter
    · rw [completed_applyData, hbef] at hafter
      cases hafter
    · rename_i hend
      simp [hend]
    · simp [hbef] at hafter

variable {failure : E2bFailure} {registered : Option (Except String Flight)}
  {opened : Except E2bExecFailure Unit} {output : E2bExecOutput}

/-- Only output can be bad, and output does not complete the collector. -/
theorem completed_of_apply_error {codec c'}
    (h : c.apply codec response = (.error failure, c')) : c'.completed = c.completed := by
  rcases response with ⟨_ | ⟨_ | data, _ | ending⟩⟩
  · cases h
  · cases h
  · cases h
  all_goals
    have hdata := completed_applyData codec data c
    rwa [show c.applyData codec data = _ from h] at hdata

theorem isEnd_of_applyFrame {codec frame}
    (hbef : ¬c.completed = true) (hafter : (applyFrame codec frame c).2.completed = true) :
    frame.IsEnd codec := by
  unfold applyFrame at hafter
  split_ifs at hafter with hend hcompressed hempty
  · exact absurd hafter hbef
  · exact absurd hafter hbef
  · exact absurd hafter hbef
  · split at hafter
    · exact absurd hafter hbef
    · rename_i response hresp
      exact ⟨not_not.1 hend, not_not.1 hcompressed, hempty, response, hresp,
        isEnd_of_apply (Bool.eq_false_iff.2 hbef) hafter⟩

/-- A collector that is complete was completed by an end event. -/
theorem endReceived_of_completed {codec bytes}
    (h : (gathered codec bytes).2.completed = true) : EndReceived codec bytes := by
  unfold gathered at h
  split at h
  · rename_i hmode
    obtain ⟨before, frame, after, c, hframes, hgood, hdown, hup⟩ :=
      exists_raise_of_consume (P := fun c : StartStreamCollector => c.completed = true)
        (by simp) h
    rw [EndReceived, hmode]
    exact ⟨before, frame, after, hframes, by rw [hgood], isEnd_of_applyFrame hdown hup⟩
  · cases h

/-- More bytes do not take an end event back. -/
theorem EndReceived.append_of_framed {codec bytes}
    (h : (gathered codec bytes).2.completed = true) (more : Bytes) :
    EndReceived codec (bytes ++ more) := by
  have hend := endReceived_of_completed h
  have hmode : modeOf bytes = some .framed := by
    by_contra hmode
    rw [gathered_of_not_framed hmode] at h
    cases h
  rw [EndReceived, hmode] at hend
  obtain ⟨before, frame, after, hframes, hgood, hframe⟩ := hend
  rw [EndReceived, modeOf_append hmode]
  exact ⟨before, frame, _, by rw [Cutter.frames_append, hframes, List.append_assoc]; rfl, hgood,
    hframe⟩

/-! ## Streams that end in silence -/

/-- The bytes are a complete body: whole frames, all of them good, or one good document. -/
def CleanEnd (codec : Codec) (bytes : Bytes) : Prop :=
  match modeOf bytes with
  | some .framed => (collected codec bytes).1 = .ok () ∧ frameCutter.leftover bytes = []
  | some .plainJson => ∃ response, codec.startResponse bytes = .ok response ∧
      (apply codec response {}).1 = .ok ()
  | none => False

/-- The output of a supervised process begins with the prefix, if there is enough of it. -/
def Acknowledged (codec : Codec) (flight : Option Flight) (bytes : Bytes) : Prop :=
  ∀ f, flight = some f → f.guardPrefix.length ≤ (gathered codec bytes).2.stdout.length →
    f.guardPrefix <+: (gathered codec bytes).2.stdout

/-- The flight of a process that was started. -/
def Started (registered : Option (Except String Flight)) (opened : Except E2bExecFailure Unit)
    (flight : Option Flight) : Prop :=
  opened = .ok () ∧ (registered = none ∧ flight = none ∨
    ∃ f, registered = some (.ok f) ∧ flight = some f)

/-- **A stream that ends in silence**: it ends where a body may end, without an end event. -/
def SilentEnd (codec : Codec) (registered : Option (Except String Flight))
    (opened : Except E2bExecFailure Unit) (body : List (Except E2bFailure Bytes)) : Prop :=
  ∃ flight, Started registered opened flight ∧ broken body = none ∧
    CleanEnd codec (received body) ∧ Acknowledged codec flight (received body) ∧
    ¬EndReceived codec (received body)

theorem startProcess_of_started (codec) {flight}
    (h : Started registered opened flight) (body : List (Except E2bFailure Bytes)) :
    startProcess codec registered opened body = readStream codec flight body false {} := by
  obtain ⟨rfl, ⟨rfl, rfl⟩ | ⟨f, rfl, rfl⟩⟩ := h <;> rfl

theorem started_of_ok {codec body} (h : startProcess codec registered opened body = .ok output) :
    ∃ flight, Started registered opened flight := by
  unfold startProcess startProcessRaw at h
  split at h
  · split at h
    · cases h
    · exact ⟨none, rfl, .inl ⟨rfl, rfl⟩⟩
  · cases h
  · rename_i f
    split at h
    · cases h
    · exact ⟨some f, rfl, .inr ⟨f, rfl, rfl⟩⟩

theorem completed_of_endWith (h : endWith failure c = .ok output) : c.completed = true := by
  unfold endWith at h
  split at h
  · assumption
  · cases h

/-- A prefix of the output that is long enough decides whether the output is acknowledged. -/
theorem prefix_of_grown {guard seen all : Bytes} (hgrown : seen <+: all)
    (hlen : guard.length ≤ seen.length) : guard <+: seen ↔ guard <+: all := by
  constructor
  · exact fun h => h.trans hgrown
  · exact fun h => List.prefix_of_prefix_length_le h hgrown hlen

section Decoder

variable {codec : Codec} {flight : Option Flight} {bytes : Bytes} {ready : Bool}
  {decoder : ConnectStartStreamDecoder}

section

variable (h : Reads codec flight bytes ready decoder)
include h

theorem Reads.acknowledgedAll :
    Acknowledged codec flight bytes := by
  intro f hf hlen
  exact h.acknowledged f hf (h.ready_iff.2 ⟨f, hf, hlen⟩)

theorem Reads.completed :
    decoder.collector.completed = (gathered codec bytes).2.completed := by
  rw [h.collector]
  split <;> rfl

/-- **The end of a body.**  A body that ended is a success when it is complete, and otherwise only
when the end of the process had been seen. -/
theorem Reads.finish_ok_iff :
    (∃ output, (decoder.finish codec).1 = .ok output) ↔ CleanEnd codec bytes := by
  have hmode := h.mode
  have hbuf := h.buffer
  have hgood := h.good
  unfold ConnectStartStreamDecoder.finish CleanEnd
  rw [hmode]
  cases hbytes : modeOf bytes with
  | none => simp
  | some mode =>
    cases mode with
    | framed =>
      simp only [hbuf, held, hbytes, if_true]
      rw [gathered, if_pos hbytes] at hgood
      by_cases hleft : frameCutter.leftover bytes = [] <;> simp [hleft, hgood]
    | plainJson =>
      have hnot : modeOf bytes ≠ some .framed := by simp [hbytes]
      have hcoll : decoder.collector = {} := by
        rw [h.collector, gathered_of_not_framed hnot]
        cases ready <;> simp [strip]
      simp only [hbuf, held, if_neg hnot, hcoll]
      cases hresp : codec.startResponse bytes with
      | error error => simp
      | ok response =>
        cases happly : apply codec response {} with
        | mk result c => cases result <;> simp [happly]

/-- The collector a failed end leaves is complete only if it was before. -/
theorem Reads.completed_of_finish
    (hfin : decoder.finish codec = (.error failure, c)) (hcomp : c.completed = true) :
    (gathered codec bytes).2.completed = true := by
  rw [← h.completed]
  unfold ConnectStartStreamDecoder.finish at hfin
  split at hfin
  · split at hfin
    · rwa [← (Prod.mk.inj hfin).2] at hcomp
    · split at hfin
      · rename_i happly
        rwa [← (Prod.mk.inj hfin).2, completed_of_apply_error happly] at hcomp
      · cases hfin
  · split at hfin
    · rwa [← (Prod.mk.inj hfin).2] at hcomp
    · cases hfin
  · rwa [← (Prod.mk.inj hfin).2] at hcomp

end

end Decoder

/-- **Success means the process has ended, except in silence.**  For every stream and every
chunking, a successful start has received the end event exactly when the stream is not one that
ends cleanly without one. -/
theorem honest_end_iff (codec : Codec) (registered : Option (Except String Flight))
    (opened : Except E2bExecFailure Unit) (body : List (Except E2bFailure Bytes)) :
    (∀ output, startProcess codec registered opened body = .ok output →
      EndReceived codec (received body)) ↔ ¬SilentEnd codec registered opened body := by
  constructor
  · rintro hhonest ⟨flight, hstarted, hbroken, hclean, hack, hsilent⟩
    have hres := startProcess_of_started codec hstarted body
    cases readStream_cases (Reads.initial codec flight) body with
    -- a stream that ends cleanly has no bad frame, shows its prefix and is not cut off
    | badFrame hbad hfirm _ =>
      rw [List.nil_append] at hbad
      have hmode : modeOf (received body) = some .framed := by
        by_contra hmode
        rw [gathered_of_not_framed hmode] at hbad
        cases hbad
      rw [CleanEnd, hmode] at hclean
      rw [gathered, if_pos hmode] at hbad
      rw [hbad] at hclean
      cases hclean.1
    | @mismatch _ f seen more hseen hfl hgood hlen hmismatch _ =>
      have hgrown := gathered_grows codec seen more
      rw [← hseen] at hgrown
      exact hmismatch ((prefix_of_grown hgrown hlen).2
        (hack f hfl (Nat.le_trans hlen hgrown.length_le)))
    | cut hcut => simp [hbroken] at hcut
    | ended _ _ hreads hended =>
      obtain ⟨output, houtput⟩ := hreads.finish_ok_iff.2 hclean
      refine hsilent (hhonest output (hres.trans (hended.trans ?_)))
      simp only [readStream]
      split <;> simp_all
  -- every other way to succeed has seen the end event in what was decoded
  · intro hsilent output houtput
    obtain ⟨flight, hstarted⟩ := started_of_ok houtput
    rw [startProcess_of_started codec hstarted] at houtput
    cases readStream_cases (Reads.initial codec flight) body with
    | @badFrame _ c ready _ hbad _ hres =>
      rw [List.nil_append] at hbad
      have hcomp := completed_of_endWith (hres.symm.trans houtput)
      refine endReceived_of_completed ?_
      rw [hbad]
      cases ready <;> exact hcomp
    | mismatch hseen _ _ _ _ hres =>
      rw [List.nil_append] at hseen
      rw [hseen]
      exact EndReceived.append_of_framed (completed_of_endWith (hres.symm.trans houtput)) _
    | cut _ _ hreads hres =>
      rw [List.nil_append] at hreads
      refine endReceived_of_completed ?_
      rw [← hreads.completed]
      exact completed_of_endWith (hres.symm.trans houtput)
    | @ended ready decoder hbroken _ hreads hres =>
      cases hfin : decoder.finish codec with
      | mk result c =>
        rw [hres] at houtput
        simp only [readStream, hfin] at houtput
        cases result with
        | error failure =>
          exact endReceived_of_completed
            (hreads.completed_of_finish hfin (completed_of_endWith houtput))
        | ok output' =>
          -- the only success without an end event is the clean end
          by_contra hend
          exact hsilent ⟨flight, hstarted, hbroken,
            hreads.finish_ok_iff.1 ⟨output', by rw [hfin]⟩, hreads.acknowledgedAll, hend⟩

/-- A keep-alive frame: no flags, no payload. -/
def keepAlive : Bytes := [0, 0, 0, 0, 0]

/-- Libraries that are never asked. -/
def idleCodec : Codec where
  startResponse _ := .error ""
  value _ := none
  render _ := ""
  base64 _ := .error ""

/-- **A keep-alive is enough.**  A body of one empty frame is a success without any event. -/
theorem keepAlive_silent : ∃ output,
    startProcess idleCodec none (.ok ()) [.ok keepAlive] = .ok output ∧ output.exitCode = none ∧
      ¬EndReceived idleCodec (received [.ok keepAlive]) := by
  refine ⟨_, rfl, rfl, ?_⟩
  have hframes : frameCutter.frames keepAlive = [⟨0, []⟩] := by
    have hnext : frameCutter.next keepAlive = some (⟨0, []⟩, []) := by
      simp [frameCutter, nextFrame, keepAlive]
    rw [Cutter.frames_of_some hnext, Cutter.frames_of_none rfl]
  rintro ⟨before, frame, after, hsplit, -, -, -, hpayload, -⟩
  rw [show received [.ok keepAlive] = keepAlive from rfl, hframes] at hsplit
  have hmem : frame ∈ [(⟨0, []⟩ : Frame)] := by rw [hsplit]; simp
  rw [List.mem_singleton.1 hmem] at hpayload
  exact hpayload rfl

/-! ## The guard prefix -/

/-- The output that a start returns or attaches to its failure. -/
def stdoutOf : Except E2bExecFailure E2bExecOutput → Bytes
  | .ok output => output.stdout
  | .error failure => failure.stdout

/-- The output in the frames of a body up to the first bad one, or in its document. -/
def decodedStdout (codec : Codec) (body : List (Except E2bFailure Bytes)) : Bytes :=
  if modeOf (received body) = some .plainJson ∧ (broken body).isNone then
    match codec.startResponse (received body) with
    | .ok response => (apply codec response {}).2.stdout
    | .error _ => []
  else
    (gathered codec (received body)).2.stdout

theorem stdoutOf_endWith (failure c) :
    stdoutOf (endWith failure c) = c.stdout := by
  unfold endWith
  split <;> rfl

theorem drop_eq_self_iff {n} (hn : 0 < n) (bytes : Bytes) :
    bytes = bytes.drop n ↔ bytes = [] := by
  constructor
  · intro h
    have hlen := congrArg List.length h
    rw [List.length_drop] at hlen
    exact List.length_eq_zero_iff.1 (by omega)
  · rintro rfl
    rw [List.drop_nil]

section GuardPrefix

variable {codec : Codec} {flight : Flight} {bytes : Bytes} {ready : Bool}
  {decoder : ConnectStartStreamDecoder}

section

variable (h : Reads codec (some flight) bytes ready decoder)
include h

/-- The output is free of the prefix exactly when there is none or the prefix was complete in the
chunks that were decoded. -/
theorem stripped_iff (c : StartStreamCollector) :
    (if ready then c.strip (guardLength (some flight)) else c).stdout =
        c.stdout.drop flight.guardPrefix.length ↔
      c.stdout = [] ∨ flight.guardPrefix.length ≤ (gathered codec bytes).2.stdout.length := by
  have hready : ready = true ↔
      flight.guardPrefix.length ≤ (gathered codec bytes).2.stdout.length := by
    rw [h.ready_iff]
    simp
  rw [← hready]
  cases ready with
  | true => simp [strip, guardLength]
  | false => simpa using drop_eq_self_iff flight.guardPrefix_length_pos c.stdout

/-- The end of a body leaves the output alone, unless the body is a document. -/
theorem Reads.stdoutOf_finish :
    stdoutOf (readStream codec (some flight) [] ready decoder) =
      if modeOf bytes = some .plainJson then
        match codec.startResponse bytes with
        | .ok response => (apply codec response {}).2.stdout
        | .error _ => []
      else decoder.collector.stdout := by
  simp only [readStream, ConnectStartStreamDecoder.finish, h.mode]
  cases hbytes : modeOf bytes with
  | none => simp [stdoutOf_endWith]
  | some mode =>
    cases mode with
    | framed =>
      by_cases hbuf : decoder.buffer = []
      · simp [hbuf, stdoutOf, intoOutput]
      · simp [hbuf, stdoutOf_endWith]
    | plainJson =>
      have hnot : modeOf bytes ≠ some .framed := by simp [hbytes]
      have hcoll : decoder.collector = {} := by
        rw [h.collector, gathered_of_not_framed hnot]
        cases ready <;> simp [strip]
      simp only [h.buffer, held, if_neg hnot, hcoll, if_true]
      cases codec.startResponse bytes with
      | error error => simp [stdoutOf_endWith]
      | ok response =>
        cases happly : apply codec response {} with
        | mk result c =>
          cases result with
          | error failure => simp [happly, stdoutOf_endWith]
          | ok _ => simp [happly, stdoutOf, intoOutput]

end

end GuardPrefix

/-- **When the prefix stays inside.**  For a supervised process whose output is the prefix and
more, or is cut off inside the prefix, what the caller gets is the output without the prefix
exactly when there was no output at all, or the chunks before the first bad frame already held the
whole prefix. -/
theorem guard_removed_iff (codec : Codec) (flight : Flight) (body : List (Except E2bFailure Bytes))
    (hguarded : flight.guardPrefix <+: decodedStdout codec body ∨
      decodedStdout codec body <+: flight.guardPrefix) :
    stdoutOf (startProcess codec (some (.ok flight)) (.ok ()) body) =
        (decodedStdout codec body).drop flight.guardPrefix.length ↔
      decodedStdout codec body = [] ∨ flight.guardPrefix.length ≤
        (gathered codec (firmBytes codec [] body)).2.stdout.length := by
  show stdoutOf (readStream codec (some flight) body false {}) = _ ↔ _
  cases readStream_cases (Reads.initial codec (some flight)) body with
  | @badFrame failure c ready decoder hbad hfirm hres =>
    rw [List.nil_append] at hbad
    have hdecoded : decodedStdout codec body = c.stdout := by
      have hmode : modeOf (received body) ≠ some .plainJson := by
        intro hmode
        rw [gathered_of_not_framed (by simp [hmode])] at hbad
        cases hbad
      simp [decodedStdout, hmode, hbad]
    rw [hres, stdoutOf_endWith, hdecoded]
    exact stripped_iff hfirm c
  | @mismatch _ f seen more hseen hfl hgood hlen hmismatch _ =>
    -- Enough output has been seen to tell, and it does not begin with the prefix.
    obtain rfl := Option.some.inj hfl
    rw [List.nil_append] at hseen
    have hgrown := gathered_grows codec seen more
    rw [← hseen] at hgrown
    have hmode : modeOf (received body) ≠ some .plainJson := by
      intro hmode
      have hempty : gathered codec (received body) = (.ok (), {}) :=
        gathered_of_not_framed (by simp [hmode])
      rw [hempty] at hgrown
      have hzero : (gathered codec seen).2.stdout = [] := List.prefix_nil.1 hgrown
      rw [hzero] at hlen
      exact Nat.not_lt.2 hlen flight.guardPrefix_length_pos
    have hdecoded : decodedStdout codec body = (gathered codec (received body)).2.stdout := by
      simp [decodedStdout, hmode]
    rw [hdecoded] at hguarded
    refine absurd ((prefix_of_grown hgrown hlen).2 ?_) hmismatch
    rcases hguarded with hguarded | hcut
    · exact hguarded
    · have heq := hcut.eq_of_length_le (Nat.le_trans hlen hgrown.length_le)
      simp only [heq, List.prefix_refl]
  | @cut failure ready decoder hbroken hfirm hreads hres =>
    have hdecoded : decodedStdout codec body = (gathered codec (received body)).2.stdout := by
      simp [decodedStdout, hbroken]
    rw [hres, stdoutOf_endWith, hdecoded, hfirm, hreads.collector]
    exact stripped_iff hreads _
  | @ended ready decoder hbroken hfirm hreads hres =>
    rw [List.nil_append] at hreads hfirm
    rw [hres, hreads.stdoutOf_finish, hfirm]
    by_cases hmode : modeOf (received body) = some .plainJson
    -- a plain answer is decoded only when the stream has ended, so no prefix was seen before
    · have hnothing : (gathered codec (received body)).2.stdout = [] := by
        rw [gathered_of_not_framed (by simp [hmode])]
      simp only [decodedStdout, hmode, hbroken, Option.isNone_none, and_self, if_true, hnothing]
      rw [drop_eq_self_iff flight.guardPrefix_length_pos]
      simp [Nat.not_le.2 flight.guardPrefix_length_pos]
    · have hdecoded : decodedStdout codec body = (gathered codec (received body)).2.stdout := by
        simp [decodedStdout, hmode]
      rw [if_neg hmode, hdecoded, hreads.collector]
      exact stripped_iff hreads _

/-! ## A supervised process that prints two letters -/

/-- The text of a data event whose output is the prefix of flight `t` and `hi`. -/
def greeting : Bytes :=
  "\x7b\"event\":\x7b\"data\":\x7b\"stdout\":\"AFhHT1ZFUk5PUi1HVUFSRDp0AGhp\"\x7d\x7d\x7d".toUTF8.data.toList

/-- The libraries on the two texts that are used here. -/
def greetingCodec : Codec where
  startResponse payload :=
    if payload = greeting then
      .ok ⟨some ⟨some ⟨some "AFhHT1ZFUk5PUi1HVUFSRDp0AGhp", none, none⟩, none⟩⟩
    else .error "unexpected text"
  value _ := none
  render _ := ""
  base64 value :=
    if value = "AFhHT1ZFUk5PUi1HVUFSRDp0AGhp" then .ok ((Flight.mk "t").guardPrefix ++ [104, 105])
    else .error "unexpected text"

/-- The frame of the data event. -/
def greetingFrame : Bytes :=
  [0, 0, 0, 0, 60] ++ greeting

/-- A compressed frame, which the decoder rejects. -/
def compressedFrame : Bytes := [1, 0, 0, 0, 0]

theorem greeting_next (rest : Bytes) :
    frameCutter.next (greetingFrame ++ rest) = some (⟨0, greeting⟩, rest) := by
  have hlen : greeting.length = 60 := by decide +kernel
  simp [frameCutter, nextFrame, greetingFrame, hlen]

/-- The frame brings the prefix and two letters, whatever comes after it. -/
theorem greeting_collected (rest : Bytes) (hrest : frameCutter.frames rest = [] ∨
    frameCutter.frames rest = [⟨1, []⟩]) :
    (gathered greetingCodec (greetingFrame ++ rest)).2.stdout =
      (Flight.mk "t").guardPrefix ++ [104, 105] := by
  have hmode : modeOf (greetingFrame ++ rest) = some .framed :=
    modeOf_append (by decide +kernel) rest
  have hframe : applyFrame greetingCodec ⟨0, greeting⟩ {} =
      (.ok (), { stdout := (Flight.mk "t").guardPrefix ++ [104, 105] }) := by
    decide +kernel
  have hcompressed : applyFrame greetingCodec ⟨1, []⟩
      { stdout := (Flight.mk "t").guardPrefix ++ [104, 105] } =
      (.error (.ofProtocol "compressed e2b process stream frames are not supported"),
        { stdout := (Flight.mk "t").guardPrefix ++ [104, 105] }) := by
    decide +kernel
  rw [gathered, if_pos hmode, collected, Cutter.frames_of_some (greeting_next rest)]
  rcases hrest with hrest | hrest <;> rw [hrest] <;> simp [consume, hframe, hcompressed]

/-- A body of the one frame: the caller gets the two letters. -/
theorem greeting_stripped :
    stdoutOf (startProcess greetingCodec (some (.ok ⟨"t"⟩)) (.ok ()) [.ok greetingFrame]) =
      [104, 105] := by
  have hstdout : (gathered greetingCodec greetingFrame).2.stdout =
      (Flight.mk "t").guardPrefix ++ [104, 105] := by
    simpa using greeting_collected [] (.inl (Cutter.frames_of_none rfl))
  have hrecv : received [.ok greetingFrame] = greetingFrame := List.append_nil _
  have hmode : modeOf greetingFrame = some .framed := by decide +kernel
  have hdecoded : decodedStdout greetingCodec [.ok greetingFrame] =
      (Flight.mk "t").guardPrefix ++ [104, 105] := by
    rw [decodedStdout, hrecv, hmode, if_neg (by simp), hstdout]
  have hgood : (gathered greetingCodec greetingFrame).1 = .ok () := by
    decide +kernel
  have hfirm : firmBytes greetingCodec [] [.ok greetingFrame] = greetingFrame := by
    simp [firmBytes, hgood]
  have h := (guard_removed_iff greetingCodec ⟨"t"⟩ [.ok greetingFrame]
    (.inl (by rw [hdecoded]; exact List.prefix_append _ _))).2
    (.inr (by rw [hfirm, hstdout, List.length_append]; exact Nat.le_add_right _ _))
  rw [h, hdecoded, List.drop_left]

/-- **The prefix leaks with a bad frame.**  The same frame and a rejected one in a single chunk:
the failure carries the whole prefix. -/
theorem greeting_leaks :
    decodedStdout greetingCodec [.ok (greetingFrame ++ compressedFrame)] =
      (Flight.mk "t").guardPrefix ++ [104, 105] ∧
    stdoutOf (startProcess greetingCodec (some (.ok ⟨"t"⟩)) (.ok ())
      [.ok (greetingFrame ++ compressedFrame)]) = (Flight.mk "t").guardPrefix ++ [104, 105] := by
  constructor
  · have hframes : frameCutter.frames compressedFrame = [⟨1, []⟩] := by
      have hnext : frameCutter.next compressedFrame = some (⟨1, []⟩, []) := by
        simp [frameCutter, nextFrame, compressedFrame]
      rw [Cutter.frames_of_some hnext, Cutter.frames_of_none rfl]
    have hmode : modeOf (greetingFrame ++ compressedFrame) = some .framed := by decide +kernel
    exact greeting_collected compressedFrame (.inr hframes)
  · decide +kernel

/-! ## Cuts of one stream -/

/-- **Decoding does not depend on the chunks.**  Two ways to cut one stream end alike: with the
same result and the same collected output, exit code and completion flag. -/
theorem decodeChunks_cut (codec : Codec) (chunks chunks' : List Bytes)
    (hcut : chunks.flatten = chunks'.flatten) :
    decodeChunks codec chunks {} = decodeChunks codec chunks' {} := by
  have h := Reads.initial codec none
  rw [h.decodeChunks_eq chunks, h.decodeChunks_eq chunks', hcut]

/-- A frame that is cut in its header, with an empty chunk, against the frame in one piece. -/
theorem decodeChunks_greeting :
    decodeChunks greetingCodec [greetingFrame.take 3, [], greetingFrame.drop 3] {} =
      decodeChunks greetingCodec [greetingFrame] {} :=
  decodeChunks_cut greetingCodec _ _ (by simp [List.take_append_drop])

end XGovernor.E2b
