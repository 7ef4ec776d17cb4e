import XGovernor.Lib.Table
import XGovernor.Domain.Json

/-!
# Memory items

The memory of a search keeps what its solvers found.  `parse_query` reads items out of the text of
a solver, a queue for each kind holds them until a worker merges them with the stored items of the
kind, and a language model says how.  Before it is asked, `_validate_source_data` looks at every
item again: one that has all its required fields must not be marked as invalid, and one that lacks
a field must be.  The parser sets the mark under a key that the text may use for a field.
-/

namespace XGovernor.Mcts.Memory

open Lib Domain Function

/-! ## Text, as Python reads it -/

abbrev Text := List Char

def strip (text : Text) : Text :=
  ((text.dropWhile isSpace).reverse.dropWhile isSpace).reverse

/-- `str.lower`; the texts it is compared with are ASCII. -/
def lower (text : Text) : Text := text.map Char.toLower

def breaksLine (c : Char) : Bool :=
  ['\n', '\r', '\x0b', '\x0c', '\x1c', '\x1d', '\x1e', '\x85', '\u2028', '\u2029'].contains c

def splitlines : Text → List Text
  | [] => []
  | '\r' :: '\n' :: rest => [] :: splitlines rest
  | c :: rest =>
    if breaksLine c then [] :: splitlines rest
    else
      match splitlines rest with
      | [] => [[c]]
      | line :: lines => (c :: line) :: lines

/-! ## The blocks of a query -/

/-- The word of an item tag, with the letters that `re.IGNORECASE` takes for its own. -/
def itemWord : Text → Option Text
  | i :: t :: e :: m :: rest =>
    if ['i', 'I', '\u0130', '\u0131'].contains i && ['t', 'T'].contains t &&
      ['e', 'E'].contains e && ['m', 'M'].contains m then some rest else none
  | _ => none

/-- `_ITEM_TAG_START_PATTERN`: whether the tag closes an item, and what follows. -/
def tagStart : Text → Option (Bool × Text)
  | '<' :: rest =>
    let (closing, rest) := match rest.dropWhile isSpace with
      | '/' :: rest => (true, rest.dropWhile isSpace)
      | rest => (false, rest)
    (itemWord rest).bind fun rest =>
      if rest.head?.any fun c => isSpace c || c = '>' then some (closing, rest) else none
  | _ => none

/-- `_find_open_tag_end`: the attributes, and what is after the bracket. -/
def openTagEnd (quote : Option Char) : Text → Option (Text × Text)
  | [] => none
  | c :: rest =>
    if quote = none ∧ c = '>' then some ([], rest)
    else
      let quote := match quote with
        | some q => if c = q then none else some q
        | none => if c = '\x22' || c = '\x27' then some c else none
      (openTagEnd quote rest).map fun (attributes, rest) => (c :: attributes, rest)

/-- `_extract_item_blocks`, one character at a time.  The search goes on where `resume` characters
are left; `blank` says that the line is blank so far, and `active` has the attributes of the last
opening tag and what follows it. -/
def itemBlocks (resume : Nat) (blank : Bool) (active : Option (Text × Text)) :
    Text → List (Text × Text)
  | [] => []
  | c :: rest =>
    let blank' := c = '\n' || blank && isSpace c
    if resume < rest.length + 1 then itemBlocks resume blank' active rest
    else
      match tagStart (c :: rest) with
      | none => itemBlocks resume blank' active rest
      | some (true, after) =>
        match after.dropWhile isSpace with
        | '>' :: next =>
          if blank then
            (active.map fun (attributes, body) =>
              (attributes, body.take (body.length - (rest.length + 1)))).toList ++
                itemBlocks next.length blank' none rest
          else itemBlocks next.length blank' active rest
        | _ => itemBlocks after.length blank' active rest
      | some (false, after) =>
        if blank then
          match openTagEnd none after with
          | none => []
          | some (attributes, next) =>
            itemBlocks next.length blank' (some (attributes, next)) rest
        else itemBlocks after.length blank' active rest

def extractItemBlocks (text : Text) : List (Text × Text) :=
  itemBlocks text.length true none text

def skipToWhitespace (text : Text) : Text := text.dropWhile (!isSpace ·)

/-- The loop of `_parse_kind`, one character at a time: the next token begins where `resume`
characters are left, and `spaced` says that white space has been read there. -/
def kindAttribute (resume : Nat) (needsSeparator spaced : Bool) : Text → Option Text
  | [] => none
  | c :: rest =>
    if resume < rest.length + 1 then kindAttribute resume needsSeparator false rest
    else if isSpace c then kindAttribute resume needsSeparator true rest
    else if needsSeparator && !spaced then
      kindAttribute (skipToWhitespace rest).length true false rest
    else if !(c.isAlpha || c = '_' || c = ':') then
      kindAttribute (skipToWhitespace rest).length true false rest
    else
      let inName := fun c : Char => c.isAlphanum || [':', '_', '.', '-'].contains c
      match (rest.dropWhile inName).dropWhile isSpace with
      | '=' :: value =>
        match value.dropWhile isSpace with
        | [] => none
        | quote :: value =>
          if !(quote = '\x22' || quote = '\x27') then
            kindAttribute (skipToWhitespace value).length true false rest
          -- an unclosed quotation ends the search
          else if !value.contains quote then none
          else if lower (c :: rest.takeWhile inName) = "kind".toList then
            some (lower (strip (value.takeWhile (· ≠ quote))))
          else kindAttribute (value.dropWhile (· ≠ quote)).tail.length true false rest
      | _ => kindAttribute (rest.dropWhile inName).length true false rest

def parseKind (attributes : Text) : Option Text :=
  kindAttribute attributes.length false false attributes

/-- `_FIELD_PATTERN`: the name of a field and its value. -/
def fieldLine (line : Text) : Option (Text × Text) :=
  match line.dropWhile isSpace with
  | [] => none
  | c :: rest =>
    let inName := fun c : Char => c.isAlphanum || c = '_'
    if c.isAlpha || c = '_' then
      match (rest.dropWhile inName).dropWhile isSpace with
      | ':' :: value => some (c :: rest.takeWhile inName, value)
      | _ => none
    else none

/-- One line of a body: a field, or more of the current one. -/
def readLine : Table String Text × Option String → Text → Table String Text × Option String
  | (fields, current), line =>
    match fieldLine line, current with
    | some (name, value), _ =>
      (fields.upsert (String.ofList name) (strip value), some (String.ofList name))
    -- a line without a name continues the field before; before the first field it is dropped
    | none, some name => (fields.modify (fun key _ => key = name) (· ++ '\n' :: line), current)
    | none, none => (fields, current)

def parseFields (body : Text) : Table String Text :=
  ((splitlines (strip body)).foldl readLine (.empty, none)).1

/-! ## Items -/

inductive Kind where
  | gap
  | testBug
  deriving DecidableEq

def supportedKinds : List Kind := [.gap, .testBug]

def Kind.text : Kind → Text
  | gap => "gap".toList
  | testBug => "test_bug".toList

def Kind.requiredFields : Kind → List String
  | gap => ["finding", "why_missing", "requested_test", "discriminator", "snippet"]
  | testBug => ["test_name", "problem", "fix_request", "evidence"]

inductive Value where
  | text (text : Text)
  | flag (value : Bool)
  deriving DecidableEq

abbrev Data := Table String Value

/-- The fields of a body as the values of an item. -/
def texts (fields : Table String Text) : Data where
  rows := fields.rows.map fun row => (row.1, .text row.2)
  keys_nodup := by simpa [List.map_map, Function.comp_def] using fields.keys_nodup

def fieldsComplete (kind : Kind) (fields : Table String Text) : Bool :=
  kind.requiredFields.all fun name => strip ((fields.get? name).getD []) ≠ []

def itemData (kind : Kind) (fields : Table String Text) : Data :=
  let data := (texts fields).upsert "kind" (.text kind.text)
  if fieldsComplete kind fields then data else data.upsert "invalid" (.flag true)

inductive ParseError where
  | noItem
  | missingKind (index : Nat)
  | blankKind (index : Nat)
  | unsupportedKind (index : Nat) (kind : Text)

structure ParseResult where
  items : List Data
  kindError : Bool
  errors : List ParseError

def parseItem (block : Text × Text) : Except (Nat → ParseError) Data :=
  match parseKind block.1 with
  | none => .error .missingKind
  | some [] => .error .blankKind
  | some name =>
    match supportedKinds.find? (·.text = name) with
    | none => .error (.unsupportedKind · name)
    | some kind => .ok (itemData kind (parseFields block.2))

def parseQuery (text : Text) : ParseResult :=
  let parsed := (extractItemBlocks text).map parseItem
  let errors := (parsed.zipIdx 1).filterMap fun (item, index) =>
    match item with
    | .error error => some (error index)
    | .ok _ => none
  ⟨parsed.filterMap Except.toOption, !errors.isEmpty, if parsed = [] then [.noItem] else errors⟩

/-! ## Merging -/

/-- What `_validate_source_data` refuses. -/
inductive SourceError where
  | key
  | kind
  | completeInvalid
  | incompleteUnmarked
  deriving DecidableEq

inductive MergeError where
  | noSources
  | sourceId
  | duplicateSourceId
  | isNew
  | source (error : SourceError)
  | exhausted

def complete (kind : Kind) (data : Data) : Bool :=
  kind.requiredFields.all fun field =>
    match data.get? field with
    | some (.text text) => strip text ≠ []
    | _ => false

def validateSourceData (data : Data) (kind : Kind) : Except SourceError Unit :=
  if (data.get? "").isSome then .error .key
  else if data.get? "kind" ≠ some (.text kind.text) then .error .kind
  else if complete kind data then
    if (data.get? "invalid").isSome then .error .completeInvalid else .ok ()
  else if data.get? "invalid" ≠ some (.flag true) then .error .incompleteUnmarked
  else .ok ()

structure SourceItem where
  sourceId : String
  isNew : Bool
  data : Data

structure MergeGroup where
  sourceIds : List String
  item : Data

/-- The loop of `_validate_inputs`, over the sources and whether they have to be new. -/
def checkSources (kind : Kind) :
    List (Bool × SourceItem) → List String → Except MergeError Unit
  | [], _ => .ok ()
  | (isNew, source) :: rest, seen =>
    if source.sourceId = "" then .error .sourceId
    else if seen.contains source.sourceId then .error .duplicateSourceId
    else if source.isNew ≠ isNew then .error .isNew
    else
      match validateSourceData source.data kind with
      | .error error => .error (.source error)
      | .ok () => checkSources kind rest (source.sourceId :: seen)

def validateInputs (kind : Kind) (old new : List SourceItem) : Except MergeError Unit :=
  if (old ++ new).isEmpty then .error .noSources
  else checkSources kind (old.map (false, ·) ++ new.map (true, ·)) []

/-- The fields of an item of an answer. -/
def readItem : List (String × Json) → Data → Option Data
  | [], item => some item
  | (key, value) :: rest, item =>
    if key = "" then none
    else
      match value with
      | .string text => readItem rest (item.upsert key (.text text.toList))
      | .bool value => readItem rest (item.upsert key (.flag value))
      | _ => none

def validateItem (raw : Json) (kind : Kind) : Option Data :=
  match raw with
  | .object fields =>
    (readItem fields .empty).bind fun item =>
      if item.get? "kind" ≠ some (.text kind.text) then none
      else if complete kind item then some (item.erase fun key _ => key = "invalid")
      else some (item.upsert "invalid" (.flag true))
  | _ => none

/-- The ids of a group: known ones, none of them seen before. -/
def readIds (inputs : List SourceItem) : List Json → List String → Option (List String)
  | [], _ => some []
  | .string id :: rest, seen =>
    if inputs.any (·.sourceId = id) && !seen.contains id then
      (readIds inputs rest (id :: seen)).map (id :: ·)
    else none
  | _ :: _, _ => none

def sameData (a b : Data) : Bool :=
  a.rows.length = b.rows.length && a.rows.all fun row => b.get? row.1 = some row.2

/-- One group of an answer.  A decoded object has no key twice, so two members are these two. -/
def validateGroup (kind : Kind) (inputs : List SourceItem) (seen : List String) :
    Json → Option MergeGroup
  | .object fields =>
    match fields.length, fields.lookup "source_ids", fields.lookup "item" with
    | 2, some (.array (rawId :: rawIds)), some raw =>
      (readIds inputs (rawId :: rawIds) seen).bind fun ids =>
      (validateItem raw kind).bind fun item =>
        let sources := inputs.filter fun source => ids.contains source.sourceId
        if sources.any (·.isNew) || sources.length = 1 && sources.all (sameData item ·.data) then
          some ⟨ids, item⟩
        else none
    | _, _, _ => none
  | _ => none

/-- The groups of an answer, which name every input. -/
def validateGroups (kind : Kind) (inputs : List SourceItem) :
    List Json → List String → Option (List MergeGroup)
  | [], seen => if inputs.all fun source => seen.contains source.sourceId then some [] else none
  | raw :: rest, seen =>
    (validateGroup kind inputs seen raw).bind fun group =>
      (validateGroups kind inputs rest (group.sourceIds ++ seen)).map (group :: ·)

/-- `_unwrap_json_markdown_fence`. -/
def unwrapFence (content : Text) : Text :=
  let lines := splitlines (strip content)
  if 3 ≤ lines.length && lines.head?.map strip = some "```json".toList &&
      lines.getLast?.map strip = some "```".toList then
    ['\n'].intercalate lines.tail.dropLast
  else content

/-- `json.loads` with the hook that refuses a key that comes twice. -/
abbrev Decoder := Text → Option Json

def validateResponse (decode : Decoder) (content : Text) (kind : Kind)
    (inputs : List SourceItem) : Option (List MergeGroup) :=
  if strip content = [] then none
  else
    match decode (unwrapFence content) with
    | some (.object [("groups", .array (raw :: rawGroups))]) =>
      let order := fun group : MergeGroup =>
        inputs.findIdx fun source => group.sourceIds.contains source.sourceId
      (validateGroups kind inputs (raw :: rawGroups) []).map
        (·.mergeSort fun a b => order a ≤ order b)
    | _ => none

/-- A merge, with what the model answers to each attempt if it does not raise. -/
def merge (decode : Decoder) (maxAttempts : Nat) (answers : Nat → Option Text) (kind : Kind)
    (old new : List SourceItem) : Except MergeError (List MergeGroup) :=
  match validateInputs kind old new with
  | .error error => .error error
  | .ok () =>
    match (List.range maxAttempts).findSome? fun attempt =>
        (answers attempt).bind fun content =>
          validateResponse decode content kind (old ++ new) with
    | some groups => .ok groups
    | none => .error .exhausted

/-! ## The pool -/

/-- The items that wait, batch by batch, and the stored ones, both in the order of their sequence
numbers, with their ids.  Every kind has one worker, which alone writes its items. -/
structure Pool where
  queues : Kind → List (List (String × Data))
  stored : Kind → List (String × Data)

inductive Event where
  | add (text : Text) (fresh : Nat → String)
  | work (kind : Kind) (answers : Nat → Option Text) (fresh : Nat → String)

def add (text : Text) (fresh : Nat → String) (pool : Pool) : Pool :=
  let items := (parseQuery text).items.mapIdx fun i data => (fresh i, data)
  { pool with
    queues := fun kind =>
      let batch := items.filter fun item => item.2.get? "kind" = some (.text kind.text)
      if batch.isEmpty then pool.queues kind else pool.queues kind ++ [batch] }

def sources (isNew : Bool) (items : List (String × Data)) : List SourceItem :=
  items.map fun item => ⟨item.1, isNew, item.2⟩

/-- `_apply_groups`: an item takes the place of the first old item of its group. -/
def replacement (old : List (String × Data)) (fresh : Nat → String) (groups : List MergeGroup) :
    List (String × Data) :=
  groups.mapIdx fun i group =>
    (((old.find? fun item => group.sourceIds.contains item.1).map Prod.fst).getD (fresh i),
      group.item)

/-- `_run_worker`: the next batch of a kind is merged, or stored as it is. -/
def work (decode : Decoder) (maxAttempts : Nat) (kind : Kind) (answers : Nat → Option Text)
    (fresh : Nat → String) (pool : Pool) : Pool :=
  match pool.queues kind with
  | [] => pool
  | batch :: rest =>
    let old := pool.stored kind
    { queues := update pool.queues kind rest
      stored := update pool.stored kind
        (match merge decode maxAttempts answers kind (sources false old) (sources true batch) with
        | .ok groups => replacement old fresh groups
        | .error _ => old ++ batch.mapIdx fun i item => (fresh i, item.2)) }

def step (decode : Decoder) (maxAttempts : Nat) (pool : Pool) : Event → Pool
  | .add text fresh => add text fresh pool
  | .work kind answers fresh => work decode maxAttempts kind answers fresh pool

def run (decode : Decoder) (maxAttempts : Nat) (events : List Event) : Pool :=
  events.foldl (step decode maxAttempts) ⟨fun _ => [], fun _ => []⟩

/-! ## Parsed items -/

variable {kind : Kind} {fields : Table String Text} {data : Data} {text : Text} {raw : Json}

theorem get?_texts (fields) (key : String) :
    (texts fields).get? key = (fields.get? key).map .text := by
  simp [texts, Table.get?, List.find?_map, Function.comp_def]

theorem get?_itemData (kind fields) (key : String) :
    (itemData kind fields).get? key =
      if key = "invalid" ∧ fieldsComplete kind fields = false then some (.flag true)
      else if key = "kind" then some (.text kind.text)
      else (fields.get? key).map .text := by
  unfold itemData
  cases fieldsComplete kind fields <;> simp [Table.get?_upsert, get?_texts]

/-- An item is complete exactly if its fields are. -/
theorem complete_itemData : complete kind (itemData kind fields) = fieldsComplete kind fields := by
  rw [Bool.eq_iff_iff, complete, fieldsComplete, List.all_eq_true, List.all_eq_true]
  refine forall₂_congr fun name hname => ?_
  have hname : name ≠ "kind" ∧ name ≠ "invalid" := by
    revert name
    cases kind <;> decide
  rw [get?_itemData]
  cases fields.get? name <;> simp [hname, strip]

theorem readLine_key {state} (line : Text)
    (h : state.1.get? "" = none) : (readLine state line).1.get? "" = none := by
  dsimp only [readLine]
  split
  · rename_i name value hline
    -- a field has a name
    have hname : name ≠ [] := by
      rintro rfl
      simp only [fieldLine] at hline
      repeat' split at hline
      all_goals simp at hline
    rw [Table.get?_upsert, if_neg, h]
    exact fun heq => hname (by simpa using heq.symm)
  · simp [Table.get?_modify, h]
  · exact h

theorem parseFields_key (body : Text) : (parseFields body).get? "" = none := by
  have hlines : ∀ (lines : List Text) (state : Table String Text × Option String),
      state.1.get? "" = none → (lines.foldl readLine state).1.get? "" = none := by
    intro lines
    induction lines with
    | nil => exact fun _ h => h
    | cons line lines ih => exact fun state h => ih _ (readLine_key line h)
  exact hlines _ _ rfl

/-- An item is refused exactly if it is complete and has a field of the name of the mark. -/
theorem validate_itemData_iff (hkey : fields.get? "" = none) :
    validateSourceData (itemData kind fields) kind = .ok () ↔
      (fieldsComplete kind fields = true → fields.get? "invalid" = none) := by
  unfold validateSourceData
  rw [complete_itemData]
  cases hcomp : fieldsComplete kind fields <;> cases hmark : fields.get? "invalid" <;>
    simp [get?_itemData, hcomp, hmark, hkey]

theorem parseItem_ok_iff {block : Text × Text} :
    parseItem block = .ok data ↔
      ∃ kind, parseKind block.1 = some kind.text ∧ itemData kind (parseFields block.2) = data := by
  unfold parseItem
  split
  · rename_i h
    simp [h]
  · rename_i h
    have hnonempty : ∀ kind : Kind, [] ≠ kind.text := by
      intro kind
      cases kind <;> decide
    simp [h, hnonempty]
  · rename_i name _ h
    have hfind : ∀ kind : Kind, supportedKinds.find? (·.text = kind.text) = some kind := by
      intro kind
      cases kind <;> decide
    constructor
    · intro hok
      split at hok
      · cases hok
      · rename_i kind hkind
        have htext : kind.text = name := by simpa using List.find?_some hkind
        exact ⟨kind, htext ▸ h, Except.ok.inj hok⟩
    · rintro ⟨kind, hkind, rfl⟩
      obtain rfl := Option.mem_unique h hkind
      rw [hfind]

theorem mem_items_iff :
    data ∈ (parseQuery text).items ↔ ∃ block ∈ extractItemBlocks text, ∃ kind,
      parseKind block.1 = some kind.text ∧ itemData kind (parseFields block.2) = data := by
  have hok : ∀ block, (parseItem block).toOption = some data ↔ parseItem block = .ok data := by
    intro block
    cases parseItem block <;> simp [Except.toOption]
  simp only [parseQuery, List.mem_filterMap, List.mem_map, ← parseItem_ok_iff, hok,
    exists_exists_and_eq_and]

/-- No item of the text has all its required fields and a field `invalid`. -/
def Unmarked (text : Text) : Prop :=
  ∀ block ∈ extractItemBlocks text, ∀ kind, parseKind block.1 = some kind.text →
    fieldsComplete kind (parseFields block.2) = true → (parseFields block.2).get? "invalid" = none

/-- An item is valid for its own kind only. -/
theorem kind_unique {kind'} (h : data.get? "kind" = some (.text kind.text))
    (h' : validateSourceData data kind' = .ok ()) : kind = kind' := by
  have htag : data.get? "kind" = some (.text kind'.text) := by
    by_contra hne
    unfold validateSourceData at h'
    split at h' <;> cases h'
  have htext := Option.mem_unique h htag
  revert htext
  cases kind <;> cases kind' <;> decide

theorem parsed_valid_iff :
    (∀ data ∈ (parseQuery text).items, ∃ kind, validateSourceData data kind = .ok ()) ↔
      Unmarked text := by
  constructor
  · intro h block hblock kind hkind
    obtain ⟨kind', hvalid⟩ := h _ (mem_items_iff.2 ⟨block, hblock, kind, hkind, rfl⟩)
    have htag : (itemData kind (parseFields block.2)).get? "kind" = some (.text kind.text) := by
      simp [get?_itemData]
    obtain rfl := kind_unique htag hvalid
    exact (validate_itemData_iff (parseFields_key _)).1 hvalid
  · intro h data hdata
    obtain ⟨block, hblock, kind, hkind, rfl⟩ := mem_items_iff.1 hdata
    exact ⟨kind, (validate_itemData_iff (parseFields_key _)).2 (h block hblock kind hkind)⟩

/-! ## Items of an answer -/

theorem readItem_key {raw item item'}
    (h : readItem raw item = some item') (hkey : item.get? "" = none) :
    item'.get? "" = none := by
  induction raw generalizing item with
  | nil => rwa [← Option.some.inj h]
  | cons member rest ih =>
    have hstep : ∀ value, member.1 ≠ "" → (item.upsert member.1 value).get? "" = none := by
      intro value hne
      rw [Table.get?_upsert, if_neg (Ne.symm hne), hkey]
    simp only [readItem] at h
    split at h
    · cases h
    · rename_i hne
      split at h
      · exact ih h (hstep _ hne)
      · exact ih h (hstep _ hne)
      · cases h

/-- The mark is set anew in every item of an answer. -/
theorem validateItem_valid (h : validateItem raw kind = some data) :
    validateSourceData data kind = .ok () := by
  have hcongr : ∀ {a b : Data}, (∀ name ∈ kind.requiredFields, a.get? name = b.get? name) →
      complete kind a = complete kind b := by
    intro a b hsame
    rw [Bool.eq_iff_iff, complete, complete, List.all_eq_true, List.all_eq_true]
    exact forall₂_congr fun name hname => by rw [hsame name hname]
  have hrequired : ∀ name ∈ kind.requiredFields, name ≠ "invalid" := by
    cases kind <;> decide
  unfold validateItem at h
  split at h
  · obtain ⟨item, hitem, h⟩ := Option.bind_eq_some_iff.1 h
    have hkey := readItem_key hitem rfl
    split at h
    · cases h
    · split at h <;> rename_i hcomp <;> obtain rfl := Option.some.inj h
      · have hsame : complete kind (item.erase fun key _ => key = "invalid") = true := by
          rw [← hcomp]
          refine hcongr fun name hname => Table.get?_erase_of_not fun _ _ => ?_
          simp [hrequired name hname]
        simp_all [validateSourceData, Table.get?_erase]
      · have hsame : complete kind (item.upsert "invalid" (.flag true)) = false := by
          rw [← Bool.eq_false_iff.2 hcomp]
          exact hcongr fun name hname => by simp [Table.get?_upsert, hrequired name hname]
        simp_all [validateSourceData, Table.get?_upsert]
  · cases h

variable {decode : Decoder} {maxAttempts : Nat} {inputs : List SourceItem}
  {groups : List MergeGroup} {seen : List String}

theorem validateGroup_valid {group} (h : validateGroup kind inputs seen raw = some group) :
    validateSourceData group.item kind = .ok () := by
  unfold validateGroup at h
  split at h
  · split at h
    · obtain ⟨ids, -, h⟩ := Option.bind_eq_some_iff.1 h
      obtain ⟨item, hitem, h⟩ := Option.bind_eq_some_iff.1 h
      dsimp only at h
      split at h
      · obtain rfl := Option.some.inj h
        exact validateItem_valid hitem
      · cases h
    · cases h
  · cases h

theorem validateGroups_valid {raws} (h : validateGroups kind inputs raws seen = some groups) :
    ∀ group ∈ groups, validateSourceData group.item kind = .ok () := by
  induction raws generalizing seen groups with
  | nil =>
    simp only [validateGroups, Option.ite_none_right_eq_some, Option.some.injEq] at h
    simp [← h.2]
  | cons raw raws ih =>
    obtain ⟨group, hgroup, h⟩ := Option.bind_eq_some_iff.1 h
    obtain ⟨rest, hrest, rfl⟩ := Option.map_eq_some_iff.1 h
    exact List.forall_mem_cons.2 ⟨validateGroup_valid hgroup, ih hrest⟩

theorem validateResponse_valid {content}
    (h : validateResponse decode content kind inputs = some groups) :
    ∀ group ∈ groups, validateSourceData group.item kind = .ok () := by
  unfold validateResponse at h
  split at h
  · cases h
  · split at h
    · obtain ⟨sorted, hsorted, rfl⟩ := Option.map_eq_some_iff.1 h
      intro group hgroup
      exact validateGroups_valid hsorted group (List.mem_mergeSort.1 hgroup)
    · cases h

/-! ## Items of the pool -/

/-- The items may be sources of the merges of the kind. -/
def Valid (kind : Kind) (items : List (String × Data)) : Prop :=
  ∀ item ∈ items, validateSourceData item.2 kind = .ok ()

/-- Every item of the pool may be a source of the merges of its kind. -/
structure Pool.Closed (pool : Pool) : Prop where
  queued : ∀ kind, ∀ batch ∈ pool.queues kind, Valid kind batch
  stored : ∀ kind, Valid kind (pool.stored kind)

theorem checkSources_source {items error}
    (h : ∀ source ∈ items, validateSourceData source.2.data kind = .ok ()) :
    checkSources kind items seen ≠ .error (.source error) := by
  induction items generalizing seen with
  | nil => nofun
  | cons source rest ih =>
    obtain ⟨hsrc, hrest⟩ := List.forall_mem_cons.1 h
    simp only [checkSources, hsrc]
    repeat' split
    all_goals first | exact ih hrest | nofun

section Merges

variable {answers : Nat → Option Text} {old batch : List (String × Data)}

theorem merge_source (hold : Valid kind old) (hbatch : Valid kind batch) (error : SourceError) :
    merge decode maxAttempts answers kind (sources false old) (sources true batch) ≠
      .error (.source error) := by
  have hinputs : validateInputs kind (sources false old) (sources true batch) ≠
      .error (.source error) := by
    unfold validateInputs
    split
    · nofun
    · refine checkSources_source fun source hsrc => ?_
      simp only [sources, List.map_map, List.mem_append, List.mem_map] at hsrc
      rcases hsrc with ⟨item, hitem, rfl⟩ | ⟨item, hitem, rfl⟩
      · exact hold item hitem
      · exact hbatch item hitem
  unfold merge
  split
  · rename_i e he
    exact fun h => hinputs (he.trans (congrArg _ (Except.error.inj h)))
  · split <;> nofun

theorem merge_valid {fresh olds news}
    (h : merge decode maxAttempts answers kind olds news = .ok groups) :
    Valid kind (replacement old fresh groups) := by
  unfold merge at h
  split at h
  · cases h
  · split at h
    · rename_i found hfound
      obtain ⟨attempt, -, hans⟩ := List.exists_of_findSome?_eq_some hfound
      obtain ⟨content, -, hresp⟩ := Option.bind_eq_some_iff.1 hans
      obtain rfl := Except.ok.inj h
      intro item hitem
      obtain ⟨index, hindex, rfl⟩ := List.mem_mapIdx.1 hitem
      exact validateResponse_valid hresp _ (List.getElem_mem hindex)
    · cases h

end Merges

section Steps

variable {pool : Pool} (h : pool.Closed)
include h

theorem Pool.Closed.add (htext : Unmarked text) (fresh : Nat → String) :
    (add text fresh pool).Closed := by
  refine ⟨fun kind batch hbatch => ?_, h.stored⟩
  dsimp only [Memory.add] at hbatch
  split at hbatch
  · exact h.queued kind batch hbatch
  · rcases List.mem_append.1 hbatch with hold | hnew
    · exact h.queued kind batch hold
    · obtain rfl := List.mem_singleton.1 hnew
      intro item hitem
      obtain ⟨hmem, htag⟩ := List.mem_filter.1 hitem
      obtain ⟨index, hindex, rfl⟩ := List.mem_mapIdx.1 hmem
      obtain ⟨kind', hvalid⟩ := parsed_valid_iff.2 htext _ (List.getElem_mem hindex)
      exact kind_unique (of_decide_eq_true htag) hvalid ▸ hvalid

theorem Pool.Closed.work (kind) (answers : Nat → Option Text) (fresh : Nat → String) :
    (work decode maxAttempts kind answers fresh pool).Closed := by
  unfold Memory.work
  split
  · exact h
  · rename_i batch rest hqueue
    have hqueued := h.queued kind
    rw [hqueue, List.forall_mem_cons] at hqueued
    constructor
    · exact (forall_update_iff _ fun kind batches => ∀ batch ∈ batches, Valid kind batch).2
        ⟨hqueued.2, fun kind _ => h.queued kind⟩
    · refine (forall_update_iff _ Valid).2 ⟨?_, fun kind _ => h.stored kind⟩
      split
      · rename_i groups hmerge
        exact merge_valid hmerge
      · -- the batch is stored as it was parsed
        refine List.forall_mem_append.2 ⟨h.stored kind, fun item hitem => ?_⟩
        obtain ⟨index, hindex, rfl⟩ := List.mem_mapIdx.1 hitem
        exact hqueued.1 batch[index] (List.getElem_mem hindex)

end Steps

theorem closed_run {events : List Event} {pool : Pool} (h : pool.Closed)
    (htexts : ∀ text fresh, .add text fresh ∈ events → Unmarked text) :
    (events.foldl (step decode maxAttempts) pool).Closed := by
  induction events generalizing pool with
  | nil => exact h
  | cons event events ih =>
    refine ih ?_ fun text fresh hmem => htexts text fresh (List.mem_cons_of_mem _ hmem)
    cases event with
    | add text fresh => exact h.add (htexts text fresh List.mem_cons_self) fresh
    | work kind answers fresh => exact h.work kind answers fresh

/-- **Memory items are closed under the operations of the pool**, as long as no text has a complete
item with a field `invalid`.  The merger accepts all the items of a text exactly if it is such a
text, and all the items of an answer in any case; after any such texts and any answers, no merge
fails because of what is queued or stored. -/
theorem items_closed (decode : Decoder) (maxAttempts : Nat) :
    (∀ text, (∀ data ∈ (parseQuery text).items, ∃ kind, validateSourceData data kind = .ok ()) ↔
      Unmarked text) ∧
    (∀ content kind inputs groups, validateResponse decode content kind inputs = some groups →
      ∀ group ∈ groups, validateSourceData group.item kind = .ok ()) ∧
    ∀ events, (∀ text fresh, .add text fresh ∈ events → Unmarked text) →
      ∀ kind, ∀ batch ∈ (run decode maxAttempts events).queues kind, ∀ answers error,
        merge decode maxAttempts answers kind
          (sources false ((run decode maxAttempts events).stored kind)) (sources true batch) ≠
            .error (.source error) := by
  refine ⟨fun text => parsed_valid_iff, fun _ _ _ _ => validateResponse_valid, ?_⟩
  intro events htexts kind batch hbatch answers error
  have hempty : Pool.Closed ⟨fun _ => [], fun _ => []⟩ :=
    ⟨fun _ => List.forall_mem_nil _, fun _ => List.forall_mem_nil _⟩
  have hclosed : (run decode maxAttempts events).Closed := closed_run hempty htexts
  exact merge_source (hclosed.stored kind) (hclosed.queued kind batch hbatch) error

/-- A report of a faulty test that has a field `invalid` besides the four that it needs. -/
def markedReport : Text :=
  "<item kind='test_bug'>\ntest_name:t\nproblem:p\nfix_request:f\nevidence:e\n".toList ++
    "invalid:n\n</item>".toList

/-- The item of the report is refused. -/
theorem markedReport_refused :
    (parseQuery markedReport).items.map (validateSourceData · .testBug) =
      [.error .completeInvalid] := by
  decide +kernel

end XGovernor.Mcts.Memory
