import Mathlib.Algebra.Order.Ring.Nat
import Mathlib.Algebra.Order.Ring.Rat
import XGovernor.Domain.Json

/-!
# Choosing a submission

A model compares the artifacts of the best nodes.  The prompt shows the artifacts as far as a total
budget goes; the answer has to evaluate every candidate.  When the budget is used up the candidates
that are left have no section, and an answer about the sections is rejected as incomplete.
-/

namespace XGovernor.Mcts.Selector

/-- Budgets count characters. -/
abbrev Text := List Char

def maxTotalArtifactChars : Nat := 360000

def maxCandidates : Nat := 10

structure Node where
  nodeId : String
  /-- Empty if there is no state. -/
  stateId : String
  score : Rat

structure Candidate (D : Type) where
  label : String
  node : Node
  artifactSha256 : D
  status : Text
  artifact : Text

section Collect

variable {D : Type} [DecidableEq D] (sha256 : Text → D) (reader : Node → Option (Text × Text))

/-- `_read_artifact`; the branch and the reader come to nothing if one of them fails. -/
def readArtifact (node : Node) : Option (Text × Text) :=
  if node.stateId = "" then none
  else (reader node).filter fun (_, artifact) => !artifact.all Domain.isSpace

/-- The loop of `collect_candidates` over the nodes, parents before their children. -/
def collectCandidates (minScore : Rat) :
    List Node → (unique : List (Candidate D)) → List (Candidate D)
  | [], unique => unique
  | node :: rest, unique =>
    if node.stateId = "" ∨ node.score < minScore then collectCandidates minScore rest unique
    else if unique.length ≥ maxCandidates then unique
    else
      match readArtifact reader node with
      | none => collectCandidates minScore rest unique
      | some (status, artifact) =>
        let digest := sha256 (status ++ '\x00' :: artifact)
        if unique.any (·.artifactSha256 = digest) then collectCandidates minScore rest unique
        else
          let n := unique.length + 1
          let label := "candidate_" ++ (if n < 10 then "0" else "") ++ toString n
          collectCandidates minScore rest (unique ++ [⟨label, node, digest, status, artifact⟩])

end Collect

variable {D : Type}

/-! ## The prompt -/

/-- The candidates that `_build_prompt` shows, with what it shows of their artifacts. -/
def sections (used : Nat) : List (Candidate D) → List (Candidate D × Text)
  | [] => []
  | candidate :: rest =>
    let remaining := maxTotalArtifactChars - used
    if remaining = 0 then []
    else
      let artifact := candidate.artifact.take remaining
      (candidate, artifact) :: sections (used + artifact.length) rest

/-- The section of a candidate. -/
def sectionText (candidate : Candidate D) (artifact : Text) : Text :=
  "\n[".toList ++ candidate.label.toList ++ "]\nnode=".toList ++ candidate.node.nodeId.toList ++
    "\nstatus:\n".toList ++
    (if candidate.status = [] then "(clean except shown artifact)".toList else candidate.status) ++
    "\nartifact:\n".toList ++ if artifact = [] then "(empty artifact)".toList else artifact

/-- The rubric, the dimensions and the task make the beginning and the end of the prompt. -/
def buildPrompt (preface closing : Text) (candidates : List (Candidate D)) : Text :=
  ['\n'].intercalate
    (preface :: (sections 0 candidates).map (fun (c, artifact) => sectionText c artifact) ++
      [closing])

theorem infix_intercalate {parts : List Text} {part : Text} (separator : Text)
    (hmem : part ∈ parts) : part <:+: separator.intercalate parts := by
  -- by induction on the parts, one separator at a time
  induction parts with
  | nil => cases hmem
  | cons first rest ih =>
    cases rest with
    | nil =>
      obtain rfl := List.mem_singleton.mp hmem
      simp [List.intercalate]
    | cons second rest =>
      rw [List.intercalate_cons_cons]
      rcases List.mem_cons.mp hmem with rfl | hrest
      · rw [List.append_assoc]
        exact (List.prefix_append ..).isInfix
      · exact (ih hrest).trans (List.suffix_append ..).isInfix

/-- The prompt has the section of every candidate that is shown, word for word. -/
theorem sectionText_infix_buildPrompt (preface closing : Text) {candidates : List (Candidate D)}
    {shown : Candidate D × Text} (hshown : shown ∈ sections 0 candidates) :
    sectionText shown.1 shown.2 <:+: buildPrompt preface closing candidates := by
  refine infix_intercalate _ (List.mem_cons_of_mem _ (List.mem_append_left _ ?_))
  exact List.mem_map.mpr ⟨shown, hshown, rfl⟩

/-- The sections are those of the candidates as long as the artifacts before the last one leave
some of the budget. -/
theorem sections_complete_iff (used : Nat) (candidate : Candidate D) (rest : List (Candidate D)) :
    (sections used (candidate :: rest)).map (·.1) = candidate :: rest ↔
      used + ((candidate :: rest).dropLast.map (·.artifact.length)).sum <
        maxTotalArtifactChars := by
  induction rest generalizing used candidate with
  | nil =>
    by_cases h : maxTotalArtifactChars - used = 0
    · simp [sections, h]; omega
    · simp [sections, h]; omega
  | cons next rest ih =>
    by_cases h : maxTotalArtifactChars - used = 0
    · simp [sections, h]; omega
    · rw [sections, if_neg h, List.map_cons, List.cons.injEq, ih]
      simp only [List.length_take, true_and, List.dropLast_cons_cons, List.map_cons, List.sum_cons]
      omega

/-! ## The answer -/

/-- An evaluation that is an object; a score is there if it is a number. -/
structure Evaluation where
  candidate : String
  score : String → Option Rat
  eligible : Option Bool

inductive EvaluationError where
  | notObject
  | invalidOrDuplicate (label : String)
  | invalid (label name : String)
  | outside (label name : String)
  | invalidEligible (label : String)

inductive SelectorError where
  | evaluation (error : EvaluationError)
  | omitted (labels : List String)
  | empty

structure Scored where
  eligible : Bool
  values : List Rat
  label : String

variable (limits : List (String × Rat))

def values (e : Evaluation) : Except EvaluationError (List Rat) :=
  limits.mapM fun (name, maximum) =>
    match e.score name with
    | none => .error (.invalid e.candidate name)
    | some value =>
      if 0 ≤ value ∧ value ≤ maximum then .ok value else .error (.outside e.candidate name)

/-- The loop of `_parse_winner` over the evaluations. -/
def scored (labels : List String) :
    List (Option Evaluation) → (seen : List String) → Except EvaluationError (List Scored)
  | [], _ => .ok []
  | none :: _, _ => .error .notObject
  | some e :: rest, seen =>
    if e.candidate ∉ labels ∨ e.candidate ∈ seen then .error (.invalidOrDuplicate e.candidate)
    else
      match values limits e, e.eligible with
      | .error error, _ => .error error
      | .ok _, none => .error (.invalidEligible e.candidate)
      | .ok values, some eligible =>
        (scored labels rest (e.candidate :: seen)).map (⟨eligible, values, e.candidate⟩ :: ·)

/-- The order of `pool.sort`: total and scores descending, then the label. -/
def Scored.before (a b : Scored) : Bool :=
  let key (row : Scored) := (-row.values.sum) :: row.values.map (-·)
  key a < key b ∨ key a = key b ∧ a.label ≤ b.label

def parseWinner (labels : List String) (evaluations : List (Option Evaluation)) :
    Except SelectorError String :=
  match scored limits labels evaluations [] with
  | .error error => .error (.evaluation error)
  | .ok rows =>
    let omitted := labels.filter fun label => label ∉ rows.map (·.label)
    if omitted ≠ [] then .error (.omitted omitted)
    else
      let pool := if rows.any (·.eligible) then rows.filter (·.eligible) else rows
      match pool.mergeSort Scored.before with
      | [] => .error .empty
      | row :: _ => .ok row.label

variable {limits}

/-- The rows are those of the evaluations, in order. -/
theorem labels_of_scored {labels seen rows} {answer : List Evaluation}
    (h : scored limits labels (answer.map some) seen = .ok rows) :
    rows.map (·.label) = answer.map (·.candidate) := by
  induction answer generalizing seen rows with
  | nil => cases h; rfl
  | cons e answer ih =>
    simp only [List.map_cons, scored] at h
    split at h
    · cases h
    split at h
    · cases h
    · cases h
    · cases hrest : scored limits labels (answer.map some) (e.candidate :: seen) with
      | error error => simp [hrest, Except.map] at h
      | ok rest =>
        simp only [hrest, Except.map, Except.ok.injEq] at h
        rw [← h, List.map_cons, ih hrest, List.map_cons]

/-- **What is asked for is shown**: the prompt has a section for every candidate, and an answer that
evaluates the candidates it shows is not rejected as incomplete, exactly if the artifacts before
the last one do not use up the budget. -/
theorem candidates_are_shown_iff (limits : List (String × Rat)) (candidates : List (Candidate D)) :
    ((sections 0 candidates).map (·.1) = candidates ∧
      ∀ answer : List Evaluation,
        (answer.map (·.candidate)).Perm ((sections 0 candidates).map (·.1.label)) →
        ∀ labels, parseWinner limits (candidates.map (·.label)) (answer.map some) ≠
          .error (.omitted labels)) ↔
      (candidates.dropLast.map (·.artifact.length)).sum < maxTotalArtifactChars := by
  have hshown : (sections 0 candidates).map (·.1) = candidates ↔
      (candidates.dropLast.map (·.artifact.length)).sum < maxTotalArtifactChars := by
    cases candidates with
    | nil => simp [sections, maxTotalArtifactChars]
    | cons candidate rest => simpa using sections_complete_iff 0 candidate rest
  refine ⟨fun h => hshown.1 h.1, fun h => ⟨hshown.2 h, fun answer hperm labels hparse => ?_⟩⟩
  have hlabels : (sections 0 candidates).map (·.1.label) = candidates.map (·.label) := by
    rw [← hshown.2 h, List.map_map, hshown.2 h]; rfl
  unfold parseWinner at hparse
  split at hparse
  · cases hparse
  · rename_i rows hrows
    have hnone : (candidates.map (·.label)).filter
        (fun label => label ∉ rows.map (·.label)) = [] := by
      rw [labels_of_scored hrows, ← hlabels, List.filter_eq_nil_iff]
      intro label hmem
      simpa using hperm.mem_iff.2 hmem
    simp only [hnone, ne_eq, not_true, if_false] at hparse
    split at hparse <;> cases hparse

/-- The candidates of two nodes; the second character of a text stands for its digest. -/
def twoCandidates (artifact : Text) : List (Candidate (Option Char)) :=
  collectCandidates (·[1]?) (fun node => some ([], if node.nodeId = "a" then artifact else ['b'])) 1
    [⟨"a", "s", 1⟩, ⟨"b", "t", 1⟩] []

private theorem twoCandidates_eq (rest : Text) :
    twoCandidates ('a' :: rest) = [⟨"candidate_01", ⟨"a", "s", 1⟩, some 'a', [], 'a' :: rest⟩,
      ⟨"candidate_02", ⟨"b", "t", 1⟩, some 'b', [], ['b']⟩] := by
  with_unfolding_all rfl

private theorem sections_twoCandidates {rest : Text} (h : rest.length = 359999) :
    (sections 0 (twoCandidates ('a' :: rest))).map (·.1.label) = ["candidate_01"] := by
  rw [twoCandidates_eq]
  simp [sections, h, maxTotalArtifactChars]

/-- Two candidates, the first with an artifact of the whole budget.  The prompt shows one of them,
and a valid answer about that one is incomplete. -/
theorem second_candidate_is_not_shown :
    let candidates := twoCandidates ('a' :: .replicate 359999 'a')
    candidates.map (·.label) = ["candidate_01", "candidate_02"] ∧
      (sections 0 candidates).map (·.1.label) = ["candidate_01"] ∧
      parseWinner [("root_cause", 25)] (candidates.map (·.label))
          [some ⟨"candidate_01", fun _ => some 20, some true⟩] =
        .error (.omitted ["candidate_02"]) := by
  refine ⟨?_, sections_twoCandidates List.length_replicate, ?_⟩
  · rw [twoCandidates_eq]
    rfl
  · rw [twoCandidates_eq]
    rfl

end XGovernor.Mcts.Selector
