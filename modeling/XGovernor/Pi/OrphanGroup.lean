import Mathlib.Algebra.Group.Int.Defs
import Mathlib.Data.List.Infix
import XGovernor.Domain.Session

/-!
# Orphaned worker groups

A session directory remembers the process group of its worker in a marker file.  After a restart
the group is terminated if it still looks like the worker of that directory.  What decides is a
search for `--session-dir <directory>` in the command lines of the group, each one with its
arguments joined by blanks.
-/

namespace XGovernor.Pi

open Domain

/-- Texts, as lists of characters. -/
abbrev Text := List Char

/-- The functions of the standard library that the search goes through. -/
structure TextLibrary where
  whitespace : Char → Bool
  /-- `String::from_utf8_lossy`. -/
  lossy : List UInt8 → Text

/-- A running process, as `/proc` shows it. -/
structure Process where
  group : Int
  /-- The arguments it was started with. -/
  argv : List (List UInt8)
  /-- Whether its `stat` and `cmdline` can be read. -/
  readable : Bool

/-- What `reap_orphan_worker_group` finds. -/
structure Surroundings where
  /-- The content of the marker, `none` if there is none, or the error of reading it. -/
  marker : Except String (Option Text)
  /-- The processes but for process 1 and the server itself. -/
  processes : List Process
  /-- Whether `/proc` can be listed. -/
  listing : Except String Unit
  /-- The answer of `terminate_process_group`. -/
  termination : Except String Unit

/-- What it did. -/
structure Reaped where
  result : Except SessionDomainError Unit
  signalled : List Int := []
  cleared : Bool := false

/-- The processes that `kill(-pgid, _)` is for; a group id of one stands for all of them.  It
then spares process 1 and the caller, which is why `processes` leaves these two out. -/
def Surroundings.killed (s : Surroundings) (pgid : Int) : List Process :=
  s.processes.filter fun p => pgid = 1 || p.group = pgid

section

variable (lib : TextLibrary)

def trim (text : Text) : Text :=
  ((text.dropWhile lib.whitespace).reverse.dropWhile lib.whitespace).reverse

/-- `str::parse::<i32>`. -/
def parseI32 (text : Text) : Option Int :=
  let digits := match text with
    | '-' :: rest | '+' :: rest => rest
    | _ => text
  let size : Int := digits.foldl (fun n c => 10 * n + (c.toNat - '0'.toNat : Nat)) 0
  let value := if text.head? = some '-' then -size else size
  if digits.isEmpty || !digits.all Char.isDigit then none
  else if -2 ^ 31 ≤ value ∧ value < 2 ^ 31 then some value
  else none

/-- The content of `/proc/<pid>/cmdline`. -/
def Process.cmdline (p : Process) : List UInt8 :=
  p.argv.flatMap (· ++ [0])

/-- The command line as the search sees it: what is not empty of it, joined by blanks. -/
def Process.command (p : Process) : Text :=
  [' '].intercalate (((p.cmdline.splitOn 0).filter (!·.isEmpty)).map lib.lossy)

/-- `group_commands`. -/
def groupCommands (s : Surroundings) (pgid : Int) : Except String (List Text) :=
  s.listing.map fun _ =>
    ((s.processes.filter fun p => p.group = pgid && p.readable).map (Process.command lib)).filter
      (!·.isEmpty)

/-- The text that the search looks for. -/
def needle (directory : List UInt8) : Text :=
  "--session-dir ".toList ++ lib.lossy directory

/-- `worker_group_matches_session`. -/
def workerGroupMatchesSession (s : Surroundings) (pgid : Int) (directory : List UInt8) :
    Except String Bool :=
  (groupCommands lib s pgid).map fun commands =>
    commands.any fun command => decide (needle lib directory <:+: command)

/-- The group that the marker names. -/
def markedGroup (contents : Text) : Option Int :=
  (parseI32 (trim lib contents)).filter (0 < ·)

/-- `reap_orphan_worker_group`. -/
def reapOrphanWorkerGroup (s : Surroundings) (directory : List UInt8) : Reaped :=
  match s.marker with
  | .error error => { result := .error (.unavailable ("pi_worker_orphaned: failed to read " ++
      String.ofList (lib.lossy directory) ++ "/worker.pgid: " ++ error)) }
  | .ok none => { result := .ok () }
  | .ok (some contents) =>
    match markedGroup lib contents with
    | none => { result := .ok (), cleared := true }
    | some pgid =>
      if (s.killed pgid).isEmpty then { result := .ok (), cleared := true }
      else
        match workerGroupMatchesSession lib s pgid directory with
        | .ok true =>
          let signalled := (s.killed pgid).map Process.group
          match s.termination with
          | .ok () => { result := .ok (), signalled, cleared := true }
          | .error message =>
            { result := .error (.unavailable ("pi_worker_orphaned: could not terminate group " ++
                toString pgid ++ ": " ++ message))
              signalled }
        -- The group id was given to something else since.
        | .ok false => { result := .ok (), cleared := true }
        -- Without an inspection the marker is kept for the next restart.
        | .error _ => { result := .ok () }

/-! ## Whose group is signalled -/

/-- The process was started for the directory. -/
def Process.StartedFor (p : Process) (directory : List UInt8) : Prop :=
  ["--session-dir".toUTF8.toList, directory] <:+: p.argv

instance (p : Process) (directory : List UInt8) : Decidable (p.StartedFor directory) :=
  inferInstanceAs (Decidable (_ <:+: _))

/-- The text of the search occurs somewhere in the command line. -/
def Process.Mentions (p : Process) (directory : List UInt8) : Prop :=
  p.readable = true ∧ needle lib directory <:+: p.command lib

/-- The marker names the group, and a process of the group mentions the directory. -/
def Surroundings.TakenFor (s : Surroundings) (directory : List UInt8) (pgid : Int) : Prop :=
  (∃ contents, s.marker = .ok (some contents) ∧ markedGroup lib contents = some pgid) ∧
    s.listing = .ok () ∧ ∃ p ∈ s.processes, p.group = pgid ∧ p.Mentions lib directory

variable {s : Surroundings} {directory : List UInt8} {pgid : Int}

theorem needle_ne_nil : needle lib directory ≠ [] :=
  List.append_ne_nil_of_left_ne_nil (by decide) _

theorem workerGroupMatchesSession_eq_true :
    workerGroupMatchesSession lib s pgid directory = .ok true ↔
      s.listing = .ok () ∧ ∃ p ∈ s.processes, p.group = pgid ∧ p.Mentions lib directory := by
  unfold workerGroupMatchesSession groupCommands
  rcases s.listing with error | ⟨⟩
  · simp [Except.map]
  · -- An empty command line is dropped; the text of the search is not empty.
    have hdropped : ∀ p : Process, needle lib directory <:+: p.command lib →
        p.command lib ≠ [] := by
      intro p hinfix hempty
      rw [hempty] at hinfix
      exact needle_ne_nil lib (List.infix_nil.mp hinfix)
    simp only [Except.map, Except.ok.injEq, List.any_eq_true, List.mem_filter, List.mem_map,
      Bool.and_eq_true, decide_eq_true_eq, Bool.not_eq_true', List.isEmpty_eq_false_iff, true_and]
    constructor
    · rintro ⟨_, ⟨⟨p, ⟨hmem, hgroup, hreadable⟩, rfl⟩, -⟩, hinfix⟩
      exact ⟨p, hmem, hgroup, hreadable, hinfix⟩
    · rintro ⟨p, hmem, hgroup, hreadable, hinfix⟩
      exact ⟨_, ⟨⟨p, ⟨hmem, hgroup, hreadable⟩, rfl⟩, hdropped p hinfix⟩, hinfix⟩

/-- What is signalled is what `kill` reaches for a marker that is taken for the worker's. -/
theorem mem_signalled_iff {group : Int} :
    group ∈ (reapOrphanWorkerGroup lib s directory).signalled ↔
      ∃ pgid, s.TakenFor lib directory pgid ∧ ∃ p ∈ s.killed pgid, p.group = group := by
  unfold Surroundings.TakenFor reapOrphanWorkerGroup
  rcases hmarker : s.marker with error | _ | contents
  · simp
  · simp
  rcases hpgid : markedGroup lib contents with _ | pgid
  · simp [hpgid]
  -- Whether the search succeeds is all that is left to decide.
  simp only [Except.ok.injEq, Option.some.injEq, exists_eq_left', hpgid,
    ← workerGroupMatchesSession_eq_true]
  split
  case isTrue hempty => simp [List.isEmpty_iff.mp hempty]
  case isFalse =>
    rcases hmatches : workerGroupMatchesSession lib s pgid directory with error | _ | _
    · simp [hmatches]
    · simp [hmatches]
    · rcases s.termination with error | ⟨⟩ <;> simp [hmatches]

end

/-- The worker of `/s/10` runs in the group that the marker of `/s/1` names. -/
def neighbour : Surroundings where
  marker := .ok (some "71\n".toList)
  processes := [⟨71, ["pi", "--session-dir", "/s/10"].map (·.toUTF8.toList), true⟩]
  listing := .ok ()
  termination := .ok ()

/-- Texts of plain characters. -/
def asciiLibrary : TextLibrary where
  whitespace c := c.isWhitespace
  lossy bytes := bytes.map fun b => Char.ofNat b.toNat

end XGovernor.Pi
