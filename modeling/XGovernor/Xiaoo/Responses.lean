import Mathlib.Data.List.DropRight
import XGovernor.Domain.Json
import XGovernor.Lib.Framing

/-!
# Streamed answers of a model

`complete_stream` reads the answer of a model as server-sent events: lines that end with a line
feed, `data:` lines that add up to the text of an event, and an empty line that ends the event.
The transport hands the bytes over in chunks whose borders mean nothing.

UTF-8 and JSON decoding belong to libraries and are parameters, and so is `parse`, which makes the
answer (and what is remembered of it) of the last event.
-/

namespace XGovernor.Xiaoo

open Domain Lib

inductive LlmError where
  | apiError (message : String)
  | parseError (message : String)
  | streamError (message : String)
  deriving DecidableEq

def malformed : LlmError := .parseError "invalid Responses response"

/-- A piece of an answer that is passed on at once; calls of tools are not. -/
structure StreamChunk where
  deltaText : Option String
  deltaReasoning : Option String
  deriving DecidableEq

structure Codec where
  /-- `std::str::from_utf8` -/
  utf8 : List UInt8 → Option (List Char)
  /-- `serde_json::from_str` -/
  value : List Char → Option Json

/-- The text of the current event, and the pieces passed on so far. -/
structure StreamState where
  data : List Char
  sent : List StreamChunk
  deriving DecidableEq

/-- How the transport ends. -/
inductive Ending where
  | closed
  | interrupted

/-- The complete lines of a buffer, each with its line feed. -/
def lineCutter : Cutter UInt8 (List UInt8) where
  next buffer := (buffer.findIdx? (· = 10)).map fun i => (buffer.take (i + 1), buffer.drop (i + 1))
  shorter := by
    intro buffer line rest h
    obtain ⟨i, hi, heq⟩ := Option.map_eq_some_iff.1 h
    obtain ⟨-, rfl⟩ := Prod.mk.inj heq
    have hlt := (List.findIdx?_eq_some_iff_getElem.1 hi).1
    rw [List.length_drop]
    omega
  stable := by
    intro buffer line rest more h
    obtain ⟨i, hi, heq⟩ := Option.map_eq_some_iff.1 h
    obtain ⟨rfl, rfl⟩ := Prod.mk.inj heq
    -- the first line feed stays where it is, before everything that arrives later
    have hlt := (List.findIdx?_eq_some_iff_getElem.1 hi).1
    rw [List.findIdx?_append, hi, Option.some_or, Option.map_some,
      List.take_append_of_le_length hlt, List.drop_append_of_le_length hlt]

/-- `str::strip_prefix("data:")`. -/
def dataField : List Char → Option (List Char)
  | 'd' :: 'a' :: 't' :: 'a' :: ':' :: value => some value
  | _ => none

section Stream

variable {R : Type} (codec : Codec) (parse : Json → Except LlmError R)

/-- An event ends the call with a result, or some pieces are passed on. -/
def onEvent (event : Json) : Except (Except LlmError R) (List StreamChunk) :=
  match (event.field "type").asStr? with
  | some "response.completed" | some "response.incomplete" =>
    .error (parse (event.field "response"))
  | some "response.failed" | some "error" => .error (.error (.apiError "Responses stream failed"))
  | some "response.output_text.delta" =>
    match (event.field "delta").asStr? with
    | some text => .ok [⟨some text, none⟩]
    | none => .error (.error malformed)
  | some "response.reasoning_summary_text.delta" =>
    match (event.field "delta").asStr? with
    | some text => .ok [⟨none, some text⟩]
    | none => .error (.error malformed)
  | _ => .ok []

def onLine (line : List UInt8) (s : StreamState) : Except (Except LlmError R) Unit × StreamState :=
  match (codec.utf8 line).map fun text => text.rdropWhile fun c => c = '\r' || c = '\n' with
  | none => (.error (.error malformed), s)
  | some [] =>
    if s.data = [] then (.ok (), s)
    else
      match codec.value s.data with
      | none => (.error (.error malformed), s)
      | some event =>
        match onEvent parse event with
        | .error result => (.error result, { s with data := [] })
        | .ok chunks => (.ok (), ⟨[], s.sent ++ chunks⟩)
  | some text =>
    match dataField text with
    | none => (.ok (), s)
    | some value =>
      let data := if s.data = [] then [] else s.data ++ ['\n']
      (.ok (), { s with data := data ++ value.dropWhile isWhitespace })

/-- The callbacks and the result of a call that has handled its lines. -/
def settle (ending : Ending) :
    Except (Except LlmError R) Unit × StreamState → List StreamChunk × Except LlmError R
  | (.error result, s) => (s.sent, result)
  | (.ok _, s) => (s.sent, .error (.streamError (match ending with
    | .closed => "Responses stream ended before completion"
    | .interrupted => "Responses stream interrupted")))

/-- The loop over the chunks: the complete lines of what has arrived are handled one after
another, and the rest waits for the next chunk. -/
def readChunks (ending : Ending) :
    List (List UInt8) → List UInt8 → StreamState → List StreamChunk × Except LlmError R
  | [], _, s => settle ending (.ok (), s)
  | chunk :: rest, bytes, s =>
    match consume (onLine codec parse) (lineCutter.frames (bytes ++ chunk)) s with
    | (.error result, s') => settle ending (.error result, s')
    | (.ok _, s') => readChunks ending rest (lineCutter.leftover (bytes ++ chunk)) s'

/-- The callbacks that a call makes, and what it returns. -/
def completeStream (ending : Ending) (chunks : List (List UInt8)) :
    List StreamChunk × Except LlmError R :=
  readChunks codec parse ending chunks [] ⟨[], []⟩

variable {codec parse} {ending : Ending}

/-- What is left over holds no line. -/
theorem frames_leftover (bytes : List UInt8) :
    lineCutter.frames (lineCutter.leftover bytes) = [] := by
  have hsplit := lineCutter.frames_append bytes []
  rw [List.append_nil, List.append_nil] at hsplit
  exact List.self_eq_append_right.1 hsplit

/-- The loop handles the lines of the whole stream. -/
theorem readChunks_eq {chunks : List (List UInt8)} {bytes : List UInt8} {s : StreamState}
    (h : lineCutter.frames bytes = []) : readChunks codec parse ending chunks bytes s =
      settle ending
        (consume (onLine codec parse) (lineCutter.frames (bytes ++ chunks.flatten)) s) := by
  -- the buffer that is carried along never holds a complete line
  induction chunks generalizing bytes s with
  | nil =>
    rw [List.flatten_nil, List.append_nil, h]
    rfl
  | cons chunk rest ih =>
    rw [List.flatten_cons, ← List.append_assoc, lineCutter.frames_append]
    simp only [readChunks]
    split
    · rename_i hres
      rw [consume_append_error hres]
    · rename_i hres
      rw [consume_append_ok hres]
      exact ih (frames_leftover _)

end Stream

/-- **Chunks do not matter**: two ways to cut a stream lead to the same callbacks and the same
result. -/
theorem complete_stream_of_chunks {R : Type} (codec : Codec) (parse : Json → Except LlmError R)
    (ending : Ending) (chunks chunks' : List (List UInt8)) (h : chunks.flatten = chunks'.flatten) :
    completeStream codec parse ending chunks = completeStream codec parse ending chunks' := by
  unfold completeStream
  rw [readChunks_eq (Cutter.frames_of_none rfl), readChunks_eq (Cutter.frames_of_none rfl), h]

/-- A piece of text is passed on though its event arrives in two pieces, cut inside its first
line. -/
theorem complete_stream_of_pieces :
    let codec : Codec := ⟨fun bytes => some (bytes.map fun b => Char.ofNat b.toNat), fun _ => some
      (.object [("delta", .string "a"), ("type", .string "response.output_text.delta")])⟩
    let parse : Json → Except LlmError Unit := fun _ => .ok ()
    let whole := completeStream codec parse .closed [[100, 97, 116, 97, 58, 91, 93, 10, 10]]
    whole.1 = [⟨some "a", none⟩] ∧
      completeStream codec parse .closed [[100, 97, 116], [97, 58, 91, 93, 10, 10]] = whole :=
  ⟨by decide +kernel, complete_stream_of_chunks _ _ _ _ _ rfl⟩

end XGovernor.Xiaoo
