import XGovernor.E2b.Stream

/-!
# What the read loop makes of a stream

The decoder keeps a buffer and a collector and works chunk by chunk.  What it collects is a
function of the bytes alone: the frames of all the bytes, applied in order up to the first bad
one.  `Reads` ties the decoder to the bytes it was fed; `readStream_cases` says how reading a body
ends, in terms of the bytes and of the chunks that were decoded without a failure.
-/

namespace XGovernor.E2b

open Lib ConnectStartStreamDecoder StartStreamCollector

/-! ## Frames of a byte string -/

theorem nextFrame_eq_some {bytes rest frame} (h : nextFrame bytes = some (frame, rest)) :
    ∃ b₁ b₂ b₃ b₄ : UInt8, ∃ body : Bytes, bytes = frame.flags :: b₁ :: b₂ :: b₃ :: b₄ :: body ∧
      ((b₁.toNat * 256 + b₂.toNat) * 256 + b₃.toNat) * 256 + b₄.toNat ≤ body.length ∧
      frame.payload = body.take (((b₁.toNat * 256 + b₂.toNat) * 256 + b₃.toNat) * 256 + b₄.toNat) ∧
      rest = body.drop (((b₁.toNat * 256 + b₂.toNat) * 256 + b₃.toNat) * 256 + b₄.toNat) := by
  unfold nextFrame at h
  split at h
  · rename_i flags b₁ b₂ b₃ b₄ body
    dsimp only at h
    split_ifs at h with hlen
    obtain ⟨rfl, rfl⟩ := Prod.mk.inj (Option.some.inj h)
    exact ⟨b₁, b₂, b₃, b₄, body, rfl, Nat.not_lt.1 hlen, rfl, rfl⟩
  · cases h

/-- Frames are cut off the front, and more bytes do not change a complete frame. -/
def frameCutter : Cutter UInt8 Frame where
  next := nextFrame
  shorter h := by
    obtain ⟨b₁, b₂, b₃, b₄, body, rfl, -, -, rfl⟩ := nextFrame_eq_some h
    simp only [List.length_cons, List.length_drop]
    omega
  stable more h := by
    obtain ⟨b₁, b₂, b₃, b₄, body, rfl, hlen, hpayload, rfl⟩ := nextFrame_eq_some h
    simp only [nextFrame, List.cons_append, List.length_append]
    rw [if_neg (by omega), List.take_append_of_le_length hlen, List.drop_append_of_le_length hlen,
      ← hpayload]

/-- What the frames of the bytes leave in the collector, and the failure of the first bad one. -/
def collected (codec : Codec) (bytes : Bytes) : Except E2bFailure Unit × StartStreamCollector :=
  consume (applyFrame codec) (frameCutter.frames bytes) {}

/-- What is collected while the stream lasts: a plain document is not looked at before its end. -/
def gathered (codec : Codec) (bytes : Bytes) : Except E2bFailure Unit × StartStreamCollector :=
  if modeOf bytes = some .framed then collected codec bytes else (.ok (), {})

/-- The bytes that are still in the buffer. -/
def held (bytes : Bytes) : Bytes :=
  if modeOf bytes = some .framed then frameCutter.leftover bytes else bytes

/-! ## The loop over frames -/

theorem drainFrames_spec (codec) {fuel decoder} (hfuel : decoder.buffer.length ≤ fuel) :
    (drainFrames codec fuel decoder).1 =
        (consume (applyFrame codec) (frameCutter.frames decoder.buffer) decoder.collector).1 ∧
      (drainFrames codec fuel decoder).2.collector =
        (consume (applyFrame codec) (frameCutter.frames decoder.buffer) decoder.collector).2 ∧
      (drainFrames codec fuel decoder).2.mode = decoder.mode ∧
      ((drainFrames codec fuel decoder).1 = .ok () →
        (drainFrames codec fuel decoder).2.buffer = frameCutter.leftover decoder.buffer) := by
  induction fuel generalizing decoder with
  | zero =>
    have hnil : decoder.buffer = [] := List.length_eq_zero_iff.1 (Nat.le_zero.1 hfuel)
    have hnone : frameCutter.next decoder.buffer = none := by rw [hnil]; rfl
    rw [Cutter.frames_of_none hnone, Cutter.leftover_of_none hnone]
    exact ⟨rfl, rfl, rfl, fun _ => rfl⟩
  | succ fuel ih =>
    simp only [drainFrames]
    cases hnext : nextFrame decoder.buffer with
    | none =>
      have hnone : frameCutter.next decoder.buffer = none := hnext
      rw [Cutter.frames_of_none hnone, Cutter.leftover_of_none hnone]
      exact ⟨rfl, rfl, rfl, fun _ => rfl⟩
    | some pair =>
      obtain ⟨frame, rest⟩ := pair
      have hsome : frameCutter.next decoder.buffer = some (frame, rest) := hnext
      have hshort := frameCutter.shorter hsome
      rw [Cutter.frames_of_some hsome, Cutter.leftover_of_some hsome]
      cases happly : applyFrame codec frame decoder.collector with
      | mk result collector =>
        cases result with
        | error failure => simp [consume, happly]
        | ok _ =>
          have hlength : ({ decoder with buffer := rest, collector } :
              ConnectStartStreamDecoder).buffer.length ≤ fuel := by
            show rest.length ≤ fuel
            omega
          simpa [consume, happly] using ih hlength

/-! ## Stripping the front of the output -/

/-- The collector without the first `n` bytes of output. -/
def StartStreamCollector.strip (n : Nat) (collector : StartStreamCollector) :
    StartStreamCollector :=
  { collector with stdout := collector.stdout.drop n }

/-- A step that only appends to the output. -/
structure Appends (step : StartStreamCollector → Except E2bFailure Unit × StartStreamCollector) :
    Prop where
  grows : ∀ c, c.stdout <+: (step c).2.stdout
  strip : ∀ n c, n ≤ c.stdout.length → step (c.strip n) = ((step c).1, (step c).2.strip n)

theorem appends_same (result : Except E2bFailure Unit) : Appends fun c => (result, c) where
  grows _ := List.prefix_refl _
  strip _ _ _ := rfl

theorem appends_collectStdout (codec) (label : String) (part : Option String) :
    Appends (collectPart codec label part .extendStdout) := by
  unfold collectPart
  split
  · exact appends_same _
  · split
    · exact appends_same _
    · refine ⟨fun c => List.prefix_append _ _, fun n c hn => ?_⟩
      simp [extendStdout, strip, List.drop_append_of_le_length hn]

theorem appends_collectStderr (codec) (label : String) (part : Option String) :
    Appends (collectPart codec label part .extendStderr) := by
  unfold collectPart
  split
  · exact appends_same _
  · split
    · exact appends_same _
    · exact ⟨fun c => List.prefix_refl _, fun n c _ => rfl⟩

/-- One appending step after another, the second only if the first succeeds. -/
theorem Appends.andThen
    {first second} (hfirst : Appends first) (hsecond : Appends second) :
    Appends fun c => match first c with
      | (.error failure, c) => (.error failure, c)
      | (.ok _, c) => second c where
  grows c := by
    have hgrows := hfirst.grows c
    split
    · rename_i heq
      rwa [heq] at hgrows
    · rename_i heq
      rw [heq] at hgrows
      exact hgrows.trans (hsecond.grows _)
  strip n c hn := by
    have hgrows := (hfirst.grows c).length_le
    rw [hfirst.strip n c hn]
    cases heq : first c with
    | mk result c' =>
      rw [heq] at hgrows
      cases result with
      | error failure => rfl
      | ok _ => exact hsecond.strip n c' (Nat.le_trans hn hgrows)

theorem appends_apply (codec response) :
    Appends (apply codec response) := by
  unfold apply
  split
  · exact appends_same _
  · split
    · exact (appends_collectStdout codec _ _).andThen
        ((appends_collectStderr codec _ _).andThen (appends_collectStdout codec _ _))
    · exact ⟨fun c => List.prefix_refl _, fun n c _ => rfl⟩
    · exact appends_same _

theorem appends_applyFrame (codec frame) :
    Appends (applyFrame codec frame) := by
  unfold applyFrame
  split_ifs
  · exact appends_same _
  · exact appends_same _
  · exact appends_same _
  · split
    · exact appends_same _
    · exact appends_apply codec _

variable {c : StartStreamCollector}

theorem consume_strip (codec) {n} (frames : List Frame) (hn : n ≤ c.stdout.length) :
    consume (applyFrame codec) frames (c.strip n) =
      ((consume (applyFrame codec) frames c).1, (consume (applyFrame codec) frames c).2.strip n) :=
  consume_map (P := fun c => n ≤ c.stdout.length)
    (fun frame c hc => Nat.le_trans hc ((appends_applyFrame codec frame).grows c).length_le)
    (fun frame c hc => (appends_applyFrame codec frame).strip n c hc) hn

theorem consume_grows (codec) (frames : List Frame) (c) :
    c.stdout <+: (consume (applyFrame codec) frames c).2.stdout :=
  consume_invariant (P := fun c' => c.stdout <+: c'.stdout)
    (fun frame c' hc => hc.trans ((appends_applyFrame codec frame).grows c'))
    (List.prefix_refl _)

/-! ## More bytes -/

theorem modeOf_append {bytes mode} (h : modeOf bytes = some mode)
    (more : Bytes) : modeOf (bytes ++ more) = some mode := by
  obtain ⟨first, hfirst, hmode⟩ := Option.map_eq_some_iff.1 h
  simp [modeOf, List.find?_append, hfirst, hmode]

/-- Bytes after a failure are not looked at. -/
theorem gathered_append_error {codec bytes failure}
    (h : gathered codec bytes = (.error failure, c)) (more : Bytes) :
    gathered codec (bytes ++ more) = (.error failure, c) := by
  unfold gathered at h ⊢
  split at h
  · rename_i hmode
    rw [if_pos (modeOf_append hmode more), collected, Cutter.frames_append]
    exact consume_append_error h _
  · cases h

/-- Bytes after a success are looked at from where the earlier ones ended. -/
theorem gathered_append_ok {codec bytes} (h : gathered codec bytes = (.ok (), c)) {more}
    (hmode : modeOf (bytes ++ more) = some .framed) :
    gathered codec (bytes ++ more) =
      consume (applyFrame codec) (frameCutter.frames (held bytes ++ more)) c := by
  rw [gathered, if_pos hmode]
  unfold gathered at h
  unfold held
  split at h
  · rename_i hframed
    rw [if_pos hframed, collected, Cutter.frames_append]
    exact consume_append_ok h _
  · rename_i hother
    rw [if_neg hother, ← (Prod.mk.inj h).2]
    rfl

theorem gathered_grows (codec) (bytes more : Bytes) :
    (gathered codec bytes).2.stdout <+: (gathered codec (bytes ++ more)).2.stdout := by
  cases h : gathered codec bytes with
  | mk result c =>
    cases result with
    | error failure =>
      simp only [gathered_append_error h, List.prefix_refl]
    | ok _ =>
      by_cases hmode : modeOf (bytes ++ more) = some .framed
      · rw [gathered_append_ok h hmode]
        exact consume_grows codec _ c
      · have hnot : modeOf bytes ≠ some .framed := fun hframed =>
          hmode (modeOf_append hframed more)
        rw [gathered, if_neg hnot] at h
        rw [← (Prod.mk.inj h).2]
        exact List.nil_prefix

/-! ## The decoder and its bytes -/

/-- The length of the prefix that a flight expects. -/
def guardLength (flight : Option Flight) : Nat :=
  (flight.map fun flight => flight.guardPrefix.length).getD 0

/-- **The decoder after some bytes.**  Everything was decoded without a failure; the prefix of a
flight is gone from the output as soon as it was there in full. -/
structure Reads (codec : Codec) (flight : Option Flight) (bytes : Bytes) (ready : Bool)
    (decoder : ConnectStartStreamDecoder) : Prop where
  mode : decoder.mode = modeOf bytes
  buffer : decoder.buffer = held bytes
  good : (gathered codec bytes).1 = .ok ()
  ready_iff : ready = true ↔ ∃ f, flight = some f ∧
    f.guardPrefix.length ≤ (gathered codec bytes).2.stdout.length
  acknowledged : ∀ f, flight = some f → ready = true →
    f.guardPrefix <+: (gathered codec bytes).2.stdout
  collector : decoder.collector =
    if ready then (gathered codec bytes).2.strip (guardLength flight)
    else (gathered codec bytes).2

theorem Flight.guardPrefix_length_pos (flight : Flight) : 0 < flight.guardPrefix.length :=
  Nat.succ_pos _

theorem Reads.initial (codec : Codec) (flight : Option Flight) :
    Reads codec flight [] false {} where
  mode := rfl
  buffer := rfl
  good := rfl
  ready_iff := by
    simp only [Bool.false_eq_true, false_iff]
    rintro ⟨f, -, hlength⟩
    exact Nat.not_lt.2 hlength f.guardPrefix_length_pos
  acknowledged := by simp
  collector := rfl

variable {chunk : Bytes}

theorem held_append {bytes} (hframed : modeOf (bytes ++ chunk) = some .framed) :
    held (bytes ++ chunk) = frameCutter.leftover (held bytes ++ chunk) := by
  rw [held, if_pos hframed, held]
  split
  · exact Cutter.leftover_append bytes chunk
  · rfl

theorem gathered_of_not_framed {codec bytes}
    (h : modeOf bytes ≠ some .framed) : gathered codec bytes = (.ok (), {}) :=
  if_neg h

section Push

variable {codec : Codec} {flight : Option Flight} {bytes : Bytes} {ready : Bool}
  {decoder : ConnectStartStreamDecoder}

section

variable (h : Reads codec flight bytes ready decoder)
include h

/-- The prefix is only cut off when it is there. -/
theorem Reads.guardLength_le (hready : ready = true) :
    guardLength flight ≤ (gathered codec bytes).2.stdout.length := by
  obtain ⟨f, rfl, hlength⟩ := h.ready_iff.1 hready
  exact hlength

/-- **One chunk.**  Pushing a chunk fails exactly as the bytes do, and leaves what they leave. -/
theorem Reads.push (chunk) :
    (decoder.push codec chunk).1 = (gathered codec (bytes ++ chunk)).1 ∧
      (decoder.push codec chunk).2.collector =
        (if ready then (gathered codec (bytes ++ chunk)).2.strip (guardLength flight)
          else (gathered codec (bytes ++ chunk)).2) ∧
      (decoder.push codec chunk).2.mode = modeOf (bytes ++ chunk) ∧
      ((decoder.push codec chunk).1 = .ok () →
        (decoder.push codec chunk).2.buffer = held (bytes ++ chunk)) := by
  -- The mode is decided by the first bytes, whichever chunk they came in.
  have hmode : decoder.mode.or (modeOf (decoder.buffer ++ chunk)) = modeOf (bytes ++ chunk) := by
    rw [h.mode, h.buffer]
    cases hbytes : modeOf bytes with
    | some mode => rw [modeOf_append hbytes]; rfl
    | none => simp [held, hbytes]
  have hlength := h.guardLength_le
  have hcollector := h.collector
  cases hgath : gathered codec bytes with
  | mk result c =>
    obtain rfl : result = .ok () := by simpa [hgath] using h.good
    rw [hgath] at hlength hcollector
    unfold ConnectStartStreamDecoder.push
    simp only [hmode]
    by_cases hframed : modeOf (bytes ++ chunk) = some .framed
    · have hconsume : consume (applyFrame codec) (frameCutter.frames (held bytes ++ chunk))
          decoder.collector =
          ((consume (applyFrame codec) (frameCutter.frames (held bytes ++ chunk)) c).1,
            if ready then (consume (applyFrame codec)
              (frameCutter.frames (held bytes ++ chunk)) c).2.strip (guardLength flight)
            else (consume (applyFrame codec) (frameCutter.frames (held bytes ++ chunk)) c).2) := by
        rw [hcollector]
        cases ready with
        | false => rfl
        | true => exact consume_strip codec _ (hlength rfl)
      have hspec := drainFrames_spec codec (Nat.le_refl ({ decoder with
        buffer := decoder.buffer ++ chunk, mode := modeOf (bytes ++ chunk) } :
          ConnectStartStreamDecoder).buffer.length)
      rw [if_pos hframed, gathered_append_ok hgath hframed, held_append hframed]
      simp only [h.buffer, hconsume] at hspec ⊢
      exact hspec
    -- nothing is decoded before the mode is known, and a plain answer only at its end
    · have hbytes : modeOf bytes ≠ some .framed := fun hb => hframed (modeOf_append hb chunk)
      rw [if_neg hframed, gathered_of_not_framed hframed]
      rw [gathered_of_not_framed hbytes] at hgath
      refine ⟨rfl, ?_, rfl, fun _ => ?_⟩
      · rw [hcollector, ← (Prod.mk.inj hgath).2]
      · simp [h.buffer, held, hbytes, hframed]

/-- A chunk that was decoded and whose prefix was dealt with. -/
theorem Reads.next {ready' collector} (hpush : (decoder.push codec chunk).1 = .ok ())
    (hstrip : stripGuardPrefix flight ready (decoder.push codec chunk).2.collector =
      .ok (ready', collector)) :
    Reads codec flight (bytes ++ chunk) ready'
      { (decoder.push codec chunk).2 with collector } := by
  obtain ⟨hres, hcoll, hmode, hbuf⟩ := h.push chunk
  have hgood : (gathered codec (bytes ++ chunk)).1 = .ok () := hres.symm.trans hpush
  have hgrows := gathered_grows codec bytes chunk
  rw [hcoll] at hstrip
  cases flight with
  | none =>
    have hready : ready = false := by simpa using h.ready_iff
    subst hready
    obtain ⟨rfl, rfl⟩ := Prod.mk.inj (Except.ok.inj hstrip)
    exact ⟨hmode, hbuf hpush, hgood, by simp, by simp, rfl⟩
  | some f =>
    simp only [stripGuardPrefix] at hstrip
    cases ready with
    | true =>
      obtain ⟨rfl, rfl⟩ := Prod.mk.inj (Except.ok.inj hstrip)
      have hlength := Nat.le_trans (h.guardLength_le rfl) hgrows.length_le
      exact ⟨hmode, hbuf hpush, hgood, ⟨fun _ => ⟨f, rfl, hlength⟩, fun _ => rfl⟩,
        fun f' hf' _ => (h.acknowledged f' hf' rfl).trans hgrows, rfl⟩
    | false =>
      simp only [Bool.not_false, Bool.true_and, decide_eq_true_eq, if_false,
        Bool.false_eq_true] at hstrip
      split_ifs at hstrip with hlength hack
      · obtain ⟨rfl, rfl⟩ := Prod.mk.inj (Except.ok.inj hstrip)
        refine ⟨hmode, hbuf hpush, hgood, by simpa using hlength, ?_, rfl⟩
        rintro f' ⟨⟩ -
        exact List.isPrefixOf_iff_prefix.1 hack
      · obtain ⟨rfl, rfl⟩ := Prod.mk.inj (Except.ok.inj hstrip)
        exact ⟨hmode, hbuf hpush, hgood, by simpa using hlength, by simp, rfl⟩

/-- A prefix that is not what the flight expects. -/
theorem Reads.mismatch {failure}
    (hstrip : stripGuardPrefix flight ready (decoder.push codec chunk).2.collector =
      .error failure) :
    ∃ f, flight = some f ∧
      (decoder.push codec chunk).2.collector = (gathered codec (bytes ++ chunk)).2 ∧
      f.guardPrefix.length ≤ (gathered codec (bytes ++ chunk)).2.stdout.length ∧
      ¬f.guardPrefix <+: (gathered codec (bytes ++ chunk)).2.stdout := by
  obtain ⟨-, hcoll, -⟩ := h.push chunk
  cases flight with
  | none => cases hstrip
  | some f =>
    simp only [stripGuardPrefix] at hstrip
    cases ready with
    | true => cases hstrip
    | false =>
      simp only [if_false, Bool.false_eq_true] at hcoll
      rw [hcoll] at hstrip
      simp only [Bool.not_false, Bool.true_and, decide_eq_true_eq] at hstrip
      split_ifs at hstrip with hlength hack
      refine ⟨f, rfl, hcoll, hlength, ?_⟩
      rwa [← List.isPrefixOf_iff_prefix]

end

end Push

/-! ## How reading a body ends -/

/-- The bytes of a body before the transport breaks off. -/
def received : List (Except E2bFailure Bytes) → Bytes
  | .ok chunk :: rest => chunk ++ received rest
  | _ => []

/-- The transport error a body breaks off with. -/
def broken : List (Except E2bFailure Bytes) → Option E2bFailure
  | .ok _ :: rest => broken rest
  | .error failure :: _ => some failure
  | [] => none

/-- The bytes of the chunks before the first that holds a bad frame. -/
def firmBytes (codec : Codec) : Bytes → List (Except E2bFailure Bytes) → Bytes
  | bytes, .ok chunk :: rest =>
    match (gathered codec (bytes ++ chunk)).1 with
    | .ok _ => firmBytes codec (bytes ++ chunk) rest
    | .error _ => bytes
  | bytes, _ => bytes

/-- The four ways the read loop ends, after `bytes` and with `body` to come. -/
inductive Ending (codec : Codec) (flight : Option Flight) (bytes : Bytes)
    (body : List (Except E2bFailure Bytes)) (result : Except E2bExecFailure E2bExecOutput) :
    Prop where
  /-- A frame was bad; what its chunk brought is kept, and the prefix is gone only if an earlier
  chunk completed it. -/
  | badFrame {failure c ready decoder}
      (hbad : gathered codec (bytes ++ received body) = (.error failure, c))
      (hfirm : Reads codec flight (firmBytes codec bytes body) ready decoder)
      (hres : result = endWith failure (if ready then c.strip (guardLength flight) else c))
  /-- The output does not begin with the prefix. -/
  | mismatch {failure f seen more}
      (hseen : bytes ++ received body = seen ++ more) (hfl : flight = some f)
      (hgood : (gathered codec seen).1 = .ok ())
      (hlength : f.guardPrefix.length ≤ (gathered codec seen).2.stdout.length)
      (hmismatch : ¬f.guardPrefix <+: (gathered codec seen).2.stdout)
      (hres : result = endWith failure (gathered codec seen).2)
  /-- The transport broke off. -/
  | cut {failure ready decoder} (hbroken : broken body = some failure)
      (hfirm : firmBytes codec bytes body = bytes ++ received body)
      (hreads : Reads codec flight (bytes ++ received body) ready decoder)
      (hres : result = endWith failure decoder.collector)
  /-- The body ended. -/
  | ended {ready decoder} (hbroken : broken body = none)
      (hfirm : firmBytes codec bytes body = bytes ++ received body)
      (hreads : Reads codec flight (bytes ++ received body) ready decoder)
      (hres : result = readStream codec flight [] ready decoder)

/-- A body whose first chunk was decoded ends as the rest of it does. -/
theorem Ending.cons {codec flight bytes rest result}
    (hgood : (gathered codec (bytes ++ chunk)).1 = .ok ())
    (h : Ending codec flight (bytes ++ chunk) rest result) :
    Ending codec flight bytes (.ok chunk :: rest) result := by
  have hrecv : bytes ++ received (.ok chunk :: rest) = bytes ++ chunk ++ received rest := by
    simp [received]
  have hfirmBytes : firmBytes codec bytes (.ok chunk :: rest) =
      firmBytes codec (bytes ++ chunk) rest := by
    simp [firmBytes, hgood]
  cases h with
  | badFrame hbad hfirm hres =>
    exact .badFrame (hrecv ▸ hbad) (hfirmBytes ▸ hfirm) hres
  | mismatch hseen hfl hgood hlength hmismatch hres =>
    exact .mismatch (hrecv.trans hseen) hfl hgood hlength hmismatch hres
  | cut hbroken hfirm hreads hres =>
    exact .cut hbroken (hfirmBytes.trans (hfirm.trans hrecv.symm)) (hrecv ▸ hreads) hres
  | ended hbroken hfirm hreads hres =>
    exact .ended hbroken (hfirmBytes.trans (hfirm.trans hrecv.symm)) (hrecv ▸ hreads)
      hres

/-- **How reading ends.** -/
theorem readStream_cases {codec flight bytes ready decoder}
    (h : Reads codec flight bytes ready decoder)
    (body : List (Except E2bFailure Bytes)) :
    Ending codec flight bytes body (readStream codec flight body ready decoder) := by
  induction body generalizing bytes ready decoder with
  | nil =>
    have hrecv : bytes ++ received [] = bytes := List.append_nil bytes
    exact .ended rfl hrecv.symm (hrecv.symm ▸ h) rfl
  | cons item rest ih =>
    cases item with
    | error failure =>
      have hrecv : bytes ++ received (.error failure :: rest) = bytes := List.append_nil bytes
      exact .cut rfl hrecv.symm (hrecv.symm ▸ h) rfl
    | ok chunk =>
      obtain ⟨hres, hcoll, -⟩ := h.push chunk
      have hrecv : bytes ++ received (.ok chunk :: rest) = bytes ++ chunk ++ received rest := by
        simp [received]
      simp only [readStream]
      cases hpush : decoder.push codec chunk with
      | mk result decoder' =>
        rw [hpush] at hres hcoll
        cases result with
        | error failure =>
          have hbad : gathered codec (bytes ++ chunk) =
              (.error failure, (gathered codec (bytes ++ chunk)).2) :=
            Prod.ext hres.symm rfl
          -- what comes after a bad frame is not read, and would not change what was decoded
          refine .badFrame ((congrArg _ hrecv).trans (gathered_append_error hbad _))
            (?_ : Reads codec flight _ ready decoder) (congrArg (endWith failure) hcoll)
          simpa [firmBytes, ← hres] using h
        | ok _ =>
          cases hstrip : stripGuardPrefix flight ready decoder'.collector with
          | error failure =>
            simp only [hstrip]
            obtain ⟨f, hfl, hcollector, hlength, hmismatch⟩ :=
              h.mismatch (by rw [hpush]; exact hstrip)
            rw [hpush] at hcollector
            exact .mismatch hrecv hfl hres.symm hlength hmismatch
              (congrArg (endWith failure) hcollector)
          | ok next =>
            simp only [hstrip]
            have hnext := h.next (by rw [hpush]) (by rw [hpush]; exact hstrip)
            rw [hpush] at hnext
            exact (ih hnext).cons hres.symm

/-! ## Decoding chunk by chunk -/

/-- The chunks of a stream are pushed up to the first failure, and the stream is finished if there
was none: the result, and the collector that is left. -/
def decodeChunks (codec : Codec) :
    List Bytes → ConnectStartStreamDecoder → Except E2bFailure E2bExecOutput × StartStreamCollector
  | [], decoder => decoder.finish codec
  | chunk :: rest, decoder =>
    match decoder.push codec chunk with
    | (.error failure, decoder) => (.error failure, decoder.collector)
    | (.ok _, decoder) => decodeChunks codec rest decoder

/-- What decoding comes to when all bytes are there at once. -/
def decoded (codec : Codec) (bytes : Bytes) :
    Except E2bFailure E2bExecOutput × StartStreamCollector :=
  match gathered codec bytes with
  | (.error failure, c) => (.error failure, c)
  | (.ok _, c) => finish codec { mode := modeOf bytes, buffer := held bytes, collector := c }

/-- **One stream, one outcome.**  Whatever has been pushed before, the chunks to come only matter
for the bytes they add up to. -/
theorem Reads.decodeChunks_eq {codec bytes decoder} (h : Reads codec none bytes false decoder)
    (chunks : List Bytes) :
    decodeChunks codec chunks decoder = decoded codec (bytes ++ chunks.flatten) := by
  induction chunks generalizing bytes decoder with
  | nil =>
    obtain ⟨mode, buffer, collector⟩ := decoder
    obtain ⟨rfl, rfl, hgood, -, -, rfl⟩ := h
    rw [List.flatten_nil, List.append_nil, decoded]
    cases hgath : gathered codec bytes with
    | mk result c =>
      obtain rfl : result = .ok () := by simpa [hgath] using hgood
      rfl
  | cons chunk rest ih =>
    obtain ⟨hres, hcoll, -⟩ := h.push chunk
    rw [List.flatten_cons, ← List.append_assoc, decodeChunks]
    cases hpush : decoder.push codec chunk with
    | mk result decoder' =>
      rw [hpush] at hres hcoll
      cases result with
      | error failure =>
        -- The rest of the stream is not looked at, in this cut or in any other.
        have hbad : gathered codec (bytes ++ chunk) = (.error failure, decoder'.collector) :=
          Prod.ext hres.symm hcoll.symm
        simp only [decoded, gathered_append_error hbad]
      | ok _ =>
        have hnext : Reads codec none (bytes ++ chunk) false (decoder.push codec chunk).2 :=
          h.next (by rw [hpush]) rfl
        rw [hpush] at hnext
        exact ih hnext

end XGovernor.E2b
