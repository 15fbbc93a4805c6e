import PaidAccess.Log.Pipeline
import PaidAccess.Proofs.Value.Fields
/-!
What a log line reveals. Credentials are masked at the top of an entry, so a line is clean exactly if none stands deeper
and the name of the deployment, which is added afterwards, is none.
-/

namespace PaidAccess.Log

/-- Whether a credential can be read off a value: the value is one, or one stands inside it, or a record inside it has
something under a sensitive name that is not masked. -/
inductive Reveals : Value → Prop where
  | secret {value : Value} (credential : isSecret value = true) : Reveals value
  | item {items : List Value} {item : Value} (listed : item ∈ items) (inside : Reveals item) : Reveals (.list items)
  | named {fields : Fields} {name : String} {value : Value} (listed : (name, value) ∈ fields)
      (sensitive : name ∈ sensitiveNames) (filled : value.truthy = true) (bare : value ≠ mask) : Reveals (.record fields)
  | field {fields : Fields} {name : String} {value : Value} (listed : (name, value) ∈ fields)
      (inside : Reveals value) : Reveals (.record fields)
  | contents {contents : Value} (inside : Reveals contents) : Reveals (.handle contents)

theorem isSecret_mask : isSecret mask = false := by decide

theorem not_reveals_mask : ¬ Reveals mask := by
  intro reveals
  cases reveals with
  | secret credential => cases isSecret_mask.symm.trans credential

theorem truthy_of_isSecret {value : Value} (credential : isSecret value = true) : value.truthy = true := by
  cases value with
  | text content =>
    have filled : content ≠ "" := by
      rintro rfl
      revert credential
      decide
    simpa [Value.truthy] using filled
  | _ => cases credential

theorem Reveals.truthy {value : Value} (reveals : Reveals value) : value.truthy = true := by
  cases reveals with
  | secret credential => exact truthy_of_isSecret credential
  | item listed _ => simpa [Value.truthy] using List.ne_nil_of_mem listed
  | named listed _ _ _ => simpa [Value.truthy] using List.ne_nil_of_mem listed
  | field listed _ => simpa [Value.truthy] using List.ne_nil_of_mem listed
  | contents _ => rfl

theorem redactedValue_of_empty {name : String} {value : Value} (empty : ¬ value.truthy = true) :
    redactedValue name value = value := by
  have plain : isSecret value = false := by
    by_contra credential
    exact empty (truthy_of_isSecret (by simpa using credential))
  simp [redactedValue, empty, plain]

theorem redactedValue_eq_mask {name : String} {value : Value} (sensitive : name ∈ sensitiveNames)
    (filled : value.truthy = true) : redactedValue name value = mask := by
  simp [redactedValue, sensitive, filled]

theorem redactedValue_of_secret {name : String} {value : Value} (credential : isSecret value = true) :
    redactedValue name value = mask := by
  simp [redactedValue, credential]

theorem redactedValue_eq_self {name : String} {value : Value} (harmless : name ∉ sensitiveNames)
    (plain : isSecret value = false) : redactedValue name value = value := by
  simp [redactedValue, harmless, plain]

/-- What is written for a value reveals something exactly if the value has it inside and stands under an ordinary name. -/
theorem reveals_redactedValue_iff (name : String) (value : Value) :
    Reveals (redactedValue name value) ↔ name ∉ sensitiveNames ∧ isSecret value = false ∧ Reveals value := by
  constructor
  · intro reveals
    have kept : ¬ redactedValue name value = mask := fun masked => not_reveals_mask (masked ▸ reveals)
    have plain : isSecret value = false := by
      by_contra credential
      exact kept (redactedValue_of_secret (by simpa using credential))
    by_cases sensitive : name ∈ sensitiveNames
    · by_cases filled : value.truthy = true
      · exact absurd (redactedValue_eq_mask sensitive filled) kept
      · exact absurd (redactedValue_of_empty filled ▸ reveals).truthy filled
    · rw [redactedValue_eq_self sensitive plain] at reveals
      exact ⟨sensitive, plain, reveals⟩
  · intro ⟨harmless, plain, reveals⟩
    rwa [redactedValue_eq_self harmless plain]

theorem reveals_record_iff {fields : Fields}
    (masked : ∀ name value, (name, value) ∈ fields → name ∈ sensitiveNames → value.truthy = true → value = mask) :
    Reveals (.record fields) ↔ ∃ name value, (name, value) ∈ fields ∧ Reveals value := by
  constructor
  · intro reveals
    cases reveals with
    | secret credential => cases credential
    | named listed sensitive filled bare => exact absurd (masked _ _ listed sensitive filled) bare
    | field listed inside => exact ⟨_, _, listed, inside⟩
  · intro ⟨name, value, listed, inside⟩
    exact .field listed inside

theorem eq_mask_of_redact {fields : Fields} {name : String} {value : Value} (listed : (name, value) ∈ redact fields)
    (sensitive : name ∈ sensitiveNames) (filled : value.truthy = true) : value = mask := by
  obtain ⟨⟨given, before⟩, _, same⟩ := List.mem_map.mp listed
  cases same
  by_cases full : before.truthy = true
  · exact redactedValue_eq_mask sensitive full
  · exact absurd (redactedValue_of_empty full ▸ filled) full

section

variable (level : Level) (event : Value) {context bound call : Fields}

/-- What an entry says under a name before it is redacted. The level and what happened are the log's own, as are the
reserved names; all else is said by the call, or else bound, or else in the context. -/
def told (level : Level) (event : Value) (context bound call : Fields) (name : String) : Option Value :=
  if name = "level" then some (.text level.name)
  else if name = "event" ∧ event ≠ .null then some event
  else if name ∈ reservedNames then none
  else (call.find? name).or ((bound.find? name).or (context.find? name))

def entry (level : Level) (event : Value) (fields : Fields) : Fields :=
  (withEvent event (dropReserved fields)).set "level" (.text level.name)

theorem find?_withEvent (fields : Fields) (name : String) :
    (withEvent event fields).find? name = if name = "event" ∧ event ≠ .null then some event else fields.find? name := by
  by_cases nothing : event = .null
  · simp [withEvent, nothing]
  · have set : withEvent event fields = fields.set "event" event := by
      unfold withEvent
      split
      next => exact absurd rfl nothing
      next => rfl
    simp [set, Fields.find?_set, nothing]

theorem find?_entry (boundDistinct : bound.Distinct) (callDistinct : call.Distinct) (name : String) :
    (entry level event (gather context bound call)).find? name = told level event context bound call name := by
  have dropped := Fields.find?_filter (fun name => !reservedNames.contains name) name (gather context bound call)
  unfold entry told dropReserved
  rw [Fields.find?_set, find?_withEvent, dropped, gather, Fields.find?_merge callDistinct, Fields.find?_merge boundDistinct]
  by_cases reserved : name ∈ reservedNames <;> simp [reserved]

theorem entry_distinct {fields : Fields} (distinct : fields.Distinct) : (entry level event fields).Distinct := by
  have kept : (dropReserved fields).Distinct := distinct.filter _
  unfold entry
  apply Fields.Distinct.set
  unfold withEvent
  split
  next => exact kept
  next => exact kept.set "event" event

def stamp (environment : Value) (fields : Fields) : Fields :=
  if environment.truthy = true ∧ fields.find? "environment" = none then [("environment", environment)] else []

theorem stampEnvironment_eq (environment : Value) (fields : Fields) :
    stampEnvironment environment fields = fields ++ stamp environment fields := by
  unfold stampEnvironment stamp
  by_cases filled : environment.truthy = true <;> cases fields.find? "environment" <;> simp [filled]

theorem find?_redact (fields : Fields) (name : String) :
    (redact fields).find? name = (fields.find? name).map (redactedValue name) :=
  Fields.find?_map redactedValue name fields

theorem stamp_redact (environment : Value) (fields : Fields) : stamp environment (redact fields) = stamp environment fields := by
  simp [stamp, find?_redact]

theorem mem_stamp (environment : Value) (fields : Fields) (name : String) (value : Value) :
    (name, value) ∈ stamp environment fields ↔
      (environment.truthy = true ∧ fields.find? "environment" = none) ∧ name = "environment" ∧ value = environment := by
  unfold stamp
  split
  next added => simp [added]
  next kept => simp [kept]

theorem reveals_line_iff (environment : Value) (fields : Fields) :
    Reveals (.record (redact fields ++ stamp environment fields)) ↔
      (∃ name value, (name, value) ∈ fields ∧ name ∉ sensitiveNames ∧ isSecret value = false ∧ Reveals value) ∨
        (fields.find? "environment" = none ∧ Reveals environment) := by
  rw [reveals_record_iff]
  · constructor
    · intro ⟨name, value, listed, reveals⟩
      rcases List.mem_append.mp listed with redacted | added
      · obtain ⟨⟨given, before⟩, there, same⟩ := List.mem_map.mp redacted
        cases same
        exact .inl ⟨_, _, there, (reveals_redactedValue_iff given before).mp reveals⟩
      · obtain ⟨⟨_, absent⟩, rfl, rfl⟩ := (mem_stamp environment fields name value).mp added
        exact .inr ⟨absent, reveals⟩
    · intro revealing
      rcases revealing with ⟨name, value, there, inside⟩ | ⟨absent, reveals⟩
      · exact ⟨name, redactedValue name value, List.mem_append_left _ (List.mem_map_of_mem there),
          (reveals_redactedValue_iff name value).mpr inside⟩
      · exact ⟨"environment", environment,
          List.mem_append_right _ ((mem_stamp environment fields _ _).mpr ⟨⟨reveals.truthy, absent⟩, rfl, rfl⟩), reveals⟩
  · intro name value listed sensitive filled
    rcases List.mem_append.mp listed with redacted | added
    · exact eq_mask_of_redact redacted sensitive filled
    · obtain ⟨_, rfl, rfl⟩ := (mem_stamp environment fields name value).mp added
      exact absurd sensitive (by decide)

/-- A line reveals no credential exactly if none stands inside a value under an ordinary name, and the name of the
deployment is none or is not added. All other fields are written as they are, and no others are. -/
theorem line_clean_iff (pipeline : Pipeline) {line : Fields} (contextDistinct : context.Distinct)
    (boundDistinct : bound.Distinct) (callDistinct : call.Distinct)
    (emitted : line ∈ pipeline.emit level event context bound call) :
    (¬ Reveals (.record line) ↔
      (∀ name value, told level event context bound call name = some value → name ∉ sensitiveNames →
        Reveals value → isSecret value = true) ∧
      (told level event context bound call "environment" = none → ¬ Reveals pipeline.environment)) ∧
    ∀ name, line.find? name = match told level event context bound call name with
      | some value => some (redactedValue name value)
      | none => if name = "environment" ∧ pipeline.environment.truthy = true then some pipeline.environment else none := by
  have found : ∀ name, (entry level event (gather context bound call)).find? name =
      told level event context bound call name := find?_entry level event boundDistinct callDistinct
  have distinct := entry_distinct level event ((contextDistinct.merge bound).merge call)
  have written : line = redact (entry level event (gather context bound call)) ++
      stamp pipeline.environment (entry level event (gather context bound call)) := by
    unfold Pipeline.emit at emitted
    split at emitted
    next => cases emitted
    next =>
      rw [List.mem_singleton.mp emitted, ← stamp_redact, ← stampEnvironment_eq]
      rfl
  constructor
  · rw [written, reveals_line_iff, found, not_or]
    apply and_congr
    · constructor
      · intro clean name value stated harmless reveals
        by_contra plain
        have listed := Fields.mem_of_find? ((found name).trans stated)
        exact clean ⟨name, value, listed, harmless, by simpa using plain, reveals⟩
      · intro clean ⟨name, value, listed, harmless, plain, reveals⟩
        have stated := (found name).symm.trans (distinct.find?_of_mem listed)
        cases plain.symm.trans (clean name value stated harmless reveals)
    · simp
  · intro name
    rw [written, Fields.find?_append, find?_redact, found]
    cases stated : told level event context bound call name with
    | some value => rfl
    | none =>
      unfold stamp
      rw [found]
      by_cases asked : name = "environment"
      · subst asked
        by_cases filled : pipeline.environment.truthy = true <;> simp [stated, filled, Fields.find?]
      · split <;> simp [asked, Fields.find?]

end

def production : Pipeline := ⟨false, .text "production"⟩

def requestContext : Fields := [("request_id", .text "r1"), ("path", .text "/api/v1/billing/webhook")]

def boundFields : Fields := [("token", .text "abc"), ("error", .text "none")]

def flatCall : Fields := [("detail", .text "whsec_1"), ("error", .record [("code", .int 400)])]

def nestedCall : Fields := [("error", .record [("code", .int 401), ("key", .text "sk_live_1")])]

/-- Credentials at the top are masked, wherever they come from. -/
theorem line_clean_of_flat :
    requestContext.Distinct ∧ boundFields.Distinct ∧ flatCall.Distinct ∧
      ∃ line ∈ production.emit .warning (.text "rejected") requestContext boundFields flatCall,
        ¬ Reveals (.record line) ∧ line.find? "token" = some mask ∧ line.find? "detail" = some mask ∧
          line.find? "error" = some (.record [("code", .int 400)]) := by
  have contextDistinct : requestContext.Distinct := by simp [requestContext, Fields.Distinct]
  have boundDistinct : boundFields.Distinct := by simp [boundFields, Fields.Distinct]
  have callDistinct : flatCall.Distinct := by simp [flatCall, Fields.Distinct]
  have emitted : line (.text "production") .warning (.text "rejected") (gather requestContext boundFields flatCall) ∈
      production.emit .warning (.text "rejected") requestContext boundFields flatCall := List.mem_singleton_self _
  have number : ¬ Reveals (.record [("code", .int 400)]) := by
    intro reveals
    cases reveals with
    | secret credential => cases credential
    | named listed sensitive =>
      obtain ⟨rfl, rfl⟩ : _ = "code" ∧ _ = Value.int 400 := by simpa using listed
      exact absurd sensitive (by decide)
    | field listed inside =>
      obtain ⟨rfl, rfl⟩ : _ = "code" ∧ _ = Value.int 400 := by simpa using listed
      cases inside with
      | secret credential => cases credential
  obtain ⟨clean, written⟩ := line_clean_iff .warning (.text "rejected") production contextDistinct boundDistinct
    callDistinct emitted
  refine ⟨contextDistinct, boundDistinct, callDistinct, _, emitted, clean.mpr ⟨?_, ?_⟩, ?_, ?_, ?_⟩
  · intro name value stated _ reveals
    have listed := Fields.mem_of_find? ((find?_entry .warning (.text "rejected") boundDistinct callDistinct name).trans stated)
    have fields : entry .warning (.text "rejected") (gather requestContext boundFields flatCall) =
        requestContext ++ [("token", .text "abc"), ("error", .record [("code", .int 400)]), ("detail", .text "whsec_1"),
          ("event", .text "rejected"), ("level", .text "warning")] := by decide
    rw [fields] at listed
    cases value with
    | text content =>
      cases reveals with
      | secret credential => exact credential
    | record found =>
      obtain ⟨rfl, rfl⟩ : name = "error" ∧ found = [("code", .int 400)] := by simpa [requestContext] using listed
      exact absurd reveals number
    | _ => simp [requestContext] at listed
  · intro _ reveals
    cases reveals with
    | secret credential => revert credential; decide
  · rw [written]; rfl
  · rw [written]; rfl
  · rw [written]; rfl

/-- A credential inside a record is written as it is. -/
theorem line_reveals_of_nested :
    ∃ line ∈ production.emit .warning (.text "rejected") requestContext boundFields nestedCall,
      line.find? "error" = some (.record [("code", .int 401), ("key", .text "sk_live_1")]) ∧ Reveals (.record line) := by
  have written : (line (.text "production") .warning (.text "rejected")
      (gather requestContext boundFields nestedCall)).find? "error" =
        some (.record [("code", .int 401), ("key", .text "sk_live_1")]) := by decide
  have key : Reveals (.record [("code", .int 401), ("key", .text "sk_live_1")]) :=
    .field (List.mem_cons_of_mem _ List.mem_cons_self) (.secret (by decide))
  exact ⟨_, List.mem_singleton_self _, written, .field (Fields.mem_of_find? written) key⟩

end PaidAccess.Log
