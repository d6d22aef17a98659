import MessageBundle.Manifest.Loading
import MessageBundle.Proofs.Data.Record

/-!
# Manifests and the data they are read from

A manifest has many forms. Each of its records may be a map, in any order and with unknown
members among the fields, or a list of its fields; two fields go by a second name; what has its
default may be left out, and what is absent may also be null. This file gives the forms of each
record by the forms of its fields, and shows that a reader accepts as a value exactly the data
in a form of that value. What is written as data is in one of these forms, so that it is read
as what it was; and as a reader has one result, no data are in forms of two manifests.

A reader is described by a relation between values and data, `ReadsExactly`. That of a record
follows from those of its fields, and so the records are settled from the innermost outwards.

## Main definitions

* `ReadsExactly` — what a reader makes of data, as a relation
* `Data.IsOptional`, `Data.IsList` — forms of values that may be absent, and of lists
* `Parameter.forms` … `Manifest.forms` — the forms of the fields of a record
* `Manifest.IsWrittenAs` — the forms of a manifest

## Main results

* `readsExactly_record` — a record read from the forms of its fields
* `Manifest.readsExactly_read`, `Manifest.isWrittenAs_encode` — reading and writing
* `Manifest.IsWrittenAs.unique` — data stand for one manifest at most
* `Manifest.reads_exactly_its_forms` — a manifest as a value and from a text
-/

namespace MessageBundle

variable {φ α : Type}

/-- A reader gives a value for the data related to it, and for no other data. -/
def ReadsExactly (read : Data φ → Reading φ α) (IsWritten : α → Data φ → Prop) : Prop :=
  ∀ d value, read d = .ok value ↔ IsWritten value d

/-! ### Single values -/

namespace Data

/-- Data that stand for a text. -/
def IsText (text : String) (d : Data φ) : Prop := d = .text text

/-- Data that stand for a truth value. -/
def IsBool (value : Bool) (d : Data φ) : Prop := d = .bool value

/-- Data that stand for a message number. -/
def IsMessageId (id : MessageId) (d : Data φ) : Prop := d = .int id.toInt

/-- Data that stand for a value that may be absent. -/
def IsOptional (IsWritten : α → Data φ → Prop) : Option α → Data φ → Prop
  | none, d => d = .null
  | some value, d => IsWritten value d

/-- Data that stand for a list of values. -/
def IsList (IsWritten : α → Data φ → Prop) (values : List α) (d : Data φ) : Prop :=
  ∃ items, d = .ofList items ∧ List.Forall₂ IsWritten values items

variable {read : Data φ → Reading φ α} {IsWritten : α → Data φ → Prop}

theorem readsExactly_readText : ReadsExactly (@readText φ) IsText := by
  intro d text
  cases d with
  | text value => simp [readText, IsText]
  | _ => simp [readText, IsText, reject_ne_ok]

theorem readsExactly_readBool : ReadsExactly (@readBool φ) IsBool := by
  intro d value
  cases d with
  | bool found => simp [readBool, IsBool]
  | _ => simp [readBool, IsBool, reject_ne_ok]

theorem readsExactly_readMessageId : ReadsExactly (@readMessageId φ) IsMessageId := by
  intro d id
  cases d with
  | int n =>
    rw [readMessageId, IsMessageId, int.injEq]
    constructor
    · intro hread
      split at hread
      next hbounds =>
        -- within these bounds the number is kept as it is
        obtain rfl := Except.ok.inj hread
        refine (Int32.toInt_ofInt_of_le hbounds.1 ?_).symm
        exact Int.lt_of_le_of_lt hbounds.2 (by decide)
      next => cases hread
    · rintro rfl
      rw [if_pos ⟨id.minValue_le_toInt, id.toInt_le⟩, Int32.ofInt_toInt]
  | _ => simp [readMessageId, IsMessageId, reject_ne_ok]

/-- Null is read as absence, and so it must not stand for a value. -/
theorem readsExactly_readOptional (hread : ReadsExactly read IsWritten)
    (hnull : ∀ value, ¬ IsWritten value .null) :
    ReadsExactly (readOptional read) (IsOptional IsWritten) := by
  intro d value
  have hpresent : (some <$> read d) = .ok value ↔ ∃ found, IsWritten found d ∧ value = some found := by
    simp only [← hread d, map_eq_pure_bind, bind_eq_ok_iff, pure_eq_ok_iff]
  cases d with
  | null =>
    -- here the reader does not look for a value, and none may be written like this
    cases value <;> simp [readOptional, IsOptional, hnull]
  | _ => cases value <;> simp [readOptional, IsOptional, hpresent]

theorem readItems_eq_ok_iff (hread : ReadsExactly read IsWritten) {items : List (Data φ)}
    {values : List α} :
    readItems read items = .ok values ↔ List.Forall₂ IsWritten values items := by
  -- on the items, as they are read from the front
  induction items generalizing values with
  | nil => simp [readItems, eq_comm]
  | cons item items ih =>
    rw [readItems, List.forall₂_cons_right_iff]
    simp only [bind_eq_ok_iff, pure_eq_ok_iff, hread item, ih]
    constructor
    · rintro ⟨value, hvalue, others, hothers, rfl⟩
      exact ⟨value, others, hvalue, hothers, rfl⟩
    · rintro ⟨value, others, hvalue, hothers, rfl⟩
      exact ⟨value, hvalue, others, hothers, rfl⟩

theorem readsExactly_readList (hread : ReadsExactly read IsWritten) :
    ReadsExactly (readList read) (IsList IsWritten) := by
  intro d values
  cases d with
  | list items cut =>
    rw [readList, IsList]
    simp only [bind_eq_ok_iff, pure_eq_ok_iff, readItems_eq_ok_iff hread]
    constructor
    · rintro ⟨found, hfound, ⟨⟩, hcut, rfl⟩
      obtain rfl := checkCut_eq_ok_iff.mp hcut
      exact ⟨items, rfl, hfound⟩
    · rintro ⟨_, hitems, hvalues⟩
      obtain ⟨rfl, rfl⟩ := Data.list.inj hitems
      exact ⟨values, hvalues, (), rfl, rfl⟩
  | _ => simp [readList, IsList, ofList, reject_ne_ok]

theorem isOptional_ofOption {encode : α → Data φ} (h : ∀ value, IsWritten value (encode value))
    (value : Option α) : IsOptional IsWritten value (ofOption encode value) := by
  cases value with
  | none => rfl
  | some value => exact h value

theorem isList_ofList_map {encode : α → Data φ} (h : ∀ value, IsWritten value (encode value))
    (values : List α) : IsList IsWritten values (ofList (values.map encode)) := by
  refine ⟨values.map encode, rfl, ?_⟩
  rw [List.forall₂_map_right_iff, List.forall₂_same]
  exact fun value _ => h value

end Data

/-! ### Fields and records -/

section Record

variable {read : Data φ → Reading φ α} {IsWritten : α → Data φ → Prop} {medium : Medium φ}
  {forms : List (FieldForm φ)}

theorem FieldForm.fits_required (hread : ReadsExactly read IsWritten) (name : String) (value : α) :
    (required name (IsWritten value)).Fits ⟨α, name, [], read, none⟩ value where
  names := rfl
  written d := hread d value
  default := by simp [required]

theorem FieldForm.fits_defaulted (hread : ReadsExactly read IsWritten) (name : String)
    (aliases : List String) (standard value : α) :
    (defaulted (name :: aliases) (IsWritten value) (value = standard)).Fits
      ⟨α, name, aliases, read, some standard⟩ value where
  names := rfl
  written d := hread d value
  default := by simp [defaulted, eq_comm]

/-- A record put together from its parts is read from the data that give the parts. -/
theorem readsExactly_record {name : String} {fs : List (Field φ)} (parts : α → Values fs)
    {forms : α → List (FieldForm φ)} {build : Values fs → Reading φ α}
    (hstrict : medium.IsStrict) (hfit : ∀ value, Fit fs (parts value) (forms value))
    (hdistinct : ∀ value, HasDistinctNames (forms value))
    (hbuild : ∀ values value, build values = .ok value ↔ values = parts value) :
    ReadsExactly (fun d => d.readRecord medium name fs >>= build)
      fun value => IsRecord medium (forms value) := by
  intro d value
  have hrecord : d.readRecord medium name fs = .ok (parts value) ↔ IsRecord medium (forms value) d :=
    readRecord_eq_ok_iff hstrict (hfit value) (hdistinct value)
  rw [bind_eq_ok_iff]
  refine Iff.trans ?_ hrecord
  constructor
  · rintro ⟨values, hvalues, hvalue⟩
    rwa [(hbuild values value).mp hvalue] at hvalues
  · intro hvalues
    exact ⟨parts value, hvalues, (hbuild _ value).mpr rfl⟩

theorem not_isRecord_null : ¬ IsRecord medium forms .null := by
  generalize hd : (Data.null : Data φ) = d
  rintro (_ | _) <;> cases hd

/-- Members that give the fields in their order make up a record. -/
theorem isRecord_ofMembers {members : List (String × Data φ)} (h : Gives forms members) :
    IsRecord medium forms (.ofMembers members) := by
  refine .map ⟨members, [], h, ?_, ?_⟩
  · exact fun member hmember => absurd hmember List.not_mem_nil
  · rw [List.append_nil]

theorem Gives.required {name : String} {IsWritten : Data φ → Prop} {d : Data φ}
    {members : List (String × Data φ)} (written : IsWritten d) (rest : Gives forms members) :
    Gives (.required name IsWritten :: forms) ((name, d) :: members) :=
  .given (List.mem_singleton_self name) written rest

theorem Gives.defaulted {name : String} {aliases : List String} {IsWritten : Data φ → Prop}
    {isDefault : Prop} {d : Data φ} {members : List (String × Data φ)} (written : IsWritten d)
    (rest : Gives forms members) :
    Gives (.defaulted (name :: aliases) IsWritten isDefault :: forms) ((name, d) :: members) :=
  .given List.mem_cons_self written rest

end Record

/-! ### The forms of each record -/

open Data FieldForm

variable (medium : Medium φ)

namespace Parameter

/-- The forms of a parameter's fields. -/
def forms (p : Parameter) : List (FieldForm φ) :=
  [required "type" (IsText p.type), required "name" (IsText p.name)]

/-- Data that stand for a parameter. -/
def IsWrittenAs (p : Parameter) : Data φ → Prop := IsRecord medium p.forms

end Parameter

namespace AnnotatedMessage

/-- The forms of the fields in the annotation of a method that returns a message. -/
def forms (a : AnnotatedMessage) : List (FieldForm φ) :=
  [required "id" (IsMessageId a.id), required "value" (IsText a.template)]

/-- Data that stand for the annotation of a method that returns a message. -/
def IsWrittenAs (a : AnnotatedMessage) : Data φ → Prop := IsRecord medium a.forms

end AnnotatedMessage

namespace AnnotatedLogMessage

/-- The forms of the fields in the annotation of a method that logs a message. -/
def forms (a : AnnotatedLogMessage) : List (FieldForm φ) :=
  [required "id" (IsMessageId a.id), required "value" (IsText a.template),
    required "level" (IsText a.level)]

/-- Data that stand for the annotation of a method that logs a message. -/
def IsWrittenAs (a : AnnotatedLogMessage) : Data φ → Prop := IsRecord medium a.forms

end AnnotatedLogMessage

/-- Data that stand for the annotation of a method that gives out the logger, a record without
fields. -/
def IsGetLogger (_ : Unit) : Data φ → Prop := IsRecord medium []

namespace Method

/-- The annotation of a method that gives out the logger, if it is there. -/
def loggerMark (m : Method) : Option Unit := if m.getLogger then some () else none

/-- The forms of a method's fields. -/
def forms (m : Method) : List (FieldForm φ) :=
  [required "name" (IsText m.name),
    defaulted ["returns"] (IsText m.returnType) (m.returnType = "void"),
    defaulted ["parameters"] (IsList (Parameter.IsWrittenAs medium) m.parameters)
      (m.parameters = []),
    defaulted ["message"] (IsOptional (AnnotatedMessage.IsWrittenAs medium) m.message)
      (m.message = none),
    defaulted ["log_message"] (IsOptional (AnnotatedLogMessage.IsWrittenAs medium) m.logMessage)
      (m.logMessage = none),
    defaulted ["get_logger"] (IsOptional (IsGetLogger medium) m.loggerMark) (m.loggerMark = none)]

/-- Data that stand for a method. -/
def IsWrittenAs (m : Method) : Data φ → Prop := IsRecord medium (m.forms medium)

end Method

/-- Data that stand for the mark of a bundle. -/
def IsProjectCode (code : String) : Data φ → Prop :=
  IsRecord medium [required "project_code" (IsText code)]

namespace Interface

/-- The forms of an interface's fields. -/
def forms (i : Interface) : List (FieldForm φ) :=
  [required "name" (IsText i.name),
    defaulted ["namespace"] (IsOptional IsText i.namespaceName) (i.namespaceName = none),
    defaulted ["log_bundle"] (IsOptional (IsProjectCode medium) i.projectCode)
      (i.projectCode = none),
    defaulted ["method", "methods"] (IsList (Method.IsWrittenAs medium) i.methods)
      (i.methods = [])]

/-- Data that stand for an interface. -/
def IsWrittenAs (i : Interface) : Data φ → Prop := IsRecord medium (i.forms medium)

end Interface

namespace Config

/-- The forms of a configuration's settings; each may be left out if it is the standard one. -/
def forms (c : Config) : List (FieldForm φ) :=
  let standard : Config := {}
  [defaulted ["impl_suffix"] (IsText c.implSuffix) (c.implSuffix = standard.implSuffix),
    defaulted ["generator_name"] (IsText c.generatorName)
      (c.generatorName = standard.generatorName),
    defaulted ["logger_type"] (IsText c.loggerType) (c.loggerType = standard.loggerType),
    defaulted ["logger_factory"] (IsText c.loggerFactory)
      (c.loggerFactory = standard.loggerFactory),
    defaulted ["formatter"] (IsText c.formatter) (c.formatter = standard.formatter),
    defaulted ["formatting_tuple"] (IsText c.formattingTuple)
      (c.formattingTuple = standard.formattingTuple),
    defaulted ["strict_annotations"] (IsBool c.strictAnnotations)
      (c.strictAnnotations = standard.strictAnnotations)]

/-- Data that stand for a configuration. -/
def IsWrittenAs (c : Config) : Data φ → Prop := IsRecord medium c.forms

end Config

namespace Manifest

/-- The forms of a manifest's fields. -/
def forms (m : Manifest) : List (FieldForm φ) :=
  [defaulted ["generator"] (Config.IsWrittenAs medium m.config) (m.config = {}),
    defaulted ["interface", "interfaces"] (IsList (Interface.IsWrittenAs medium) m.interfaces)
      (m.interfaces = [])]

/-- Data that stand for a manifest. -/
def IsWrittenAs (m : Manifest) : Data φ → Prop := IsRecord medium (m.forms medium)

end Manifest

/-! ### Reading -/

section Reading

variable {medium : Medium φ} (hstrict : medium.IsStrict)
include hstrict

theorem Parameter.readsExactly_read :
    ReadsExactly (Parameter.read medium) (Parameter.IsWrittenAs medium) := by
  refine readsExactly_record (fun p => (p.type, p.name, ())) hstrict ?_ ?_ ?_
  · intro p
    exact .cons (fits_required readsExactly_readText ..)
      (.cons (fits_required readsExactly_readText ..) .nil)
  · intro p
    simp [HasDistinctNames, forms, required]
  · rintro ⟨type, name, ⟨⟩⟩ ⟨type', name'⟩
    simp [pure_eq_ok_iff, eq_comm]

theorem AnnotatedMessage.readsExactly_read :
    ReadsExactly (AnnotatedMessage.read medium) (AnnotatedMessage.IsWrittenAs medium) := by
  refine readsExactly_record (fun a => (a.id, a.template, ())) hstrict ?_ ?_ ?_
  · intro a
    exact .cons (fits_required readsExactly_readMessageId ..)
      (.cons (fits_required readsExactly_readText ..) .nil)
  · intro a
    simp [HasDistinctNames, forms, required]
  · rintro ⟨id, template, ⟨⟩⟩ ⟨id', template'⟩
    simp [pure_eq_ok_iff, eq_comm]

theorem AnnotatedLogMessage.readsExactly_read :
    ReadsExactly (AnnotatedLogMessage.read medium) (AnnotatedLogMessage.IsWrittenAs medium) := by
  refine readsExactly_record (fun a => (a.id, a.template, a.level, ())) hstrict ?_ ?_ ?_
  · intro a
    exact .cons (fits_required readsExactly_readMessageId ..)
      (.cons (fits_required readsExactly_readText ..)
        (.cons (fits_required readsExactly_readText ..) .nil))
  · intro a
    simp [HasDistinctNames, forms, required]
  · rintro ⟨id, template, level, ⟨⟩⟩ ⟨id', template', level'⟩
    simp [pure_eq_ok_iff, eq_comm]

theorem readsExactly_readGetLogger :
    ReadsExactly (readGetLogger medium) (IsGetLogger medium) := by
  intro d value
  exact readRecord_eq_ok_iff hstrict .nil List.nodup_nil

theorem readsExactly_readProjectCode :
    ReadsExactly (readProjectCode medium) (IsProjectCode medium) := by
  refine readsExactly_record (fun code => (code, ())) hstrict ?_ ?_ ?_
  · intro code
    exact .cons (fits_required readsExactly_readText ..) .nil
  · intro code
    simp [HasDistinctNames, required]
  · rintro ⟨code, ⟨⟩⟩ code'
    exact pure_eq_ok_iff.trans (by simp [eq_comm])

theorem Method.readsExactly_read :
    ReadsExactly (Method.read medium) (Method.IsWrittenAs medium) := by
  have hmessage := readsExactly_readOptional (AnnotatedMessage.readsExactly_read hstrict)
    fun _ => not_isRecord_null
  have hlogMessage := readsExactly_readOptional (AnnotatedLogMessage.readsExactly_read hstrict)
    fun _ => not_isRecord_null
  have hgetLogger := readsExactly_readOptional (readsExactly_readGetLogger hstrict)
    fun _ => not_isRecord_null
  refine readsExactly_record
    (fun m => (m.name, m.returnType, m.parameters, m.message, m.logMessage, m.loggerMark, ()))
    hstrict ?_ ?_ ?_
  · intro m
    exact .cons (fits_required readsExactly_readText ..)
      (.cons (fits_defaulted readsExactly_readText ..)
        (.cons (fits_defaulted (readsExactly_readList (Parameter.readsExactly_read hstrict)) ..)
          (.cons (fits_defaulted hmessage ..)
            (.cons (fits_defaulted hlogMessage ..) (.cons (fits_defaulted hgetLogger ..) .nil)))))
  · intro m
    simp [HasDistinctNames, forms, required, defaulted]
  · rintro ⟨name, returnType, parameters, message, logMessage, mark, ⟨⟩⟩
      ⟨name', returnType', parameters', message', logMessage', getLogger⟩
    -- of this mark, only whether it is there is kept
    have hmark : getLogger = mark.isSome ↔ mark = if getLogger then some () else none := by
      cases mark <;> cases getLogger <;> simp
    simp [pure_eq_ok_iff, loggerMark, eq_comm, hmark]

theorem Interface.readsExactly_read :
    ReadsExactly (Interface.read medium) (Interface.IsWrittenAs medium) := by
  have hnamespace : ReadsExactly (readOptional readText) (IsOptional (@IsText φ)) :=
    readsExactly_readOptional readsExactly_readText fun _ hnull => by cases hnull
  have hprojectCode := readsExactly_readOptional (readsExactly_readProjectCode hstrict)
    fun _ => not_isRecord_null
  refine readsExactly_record
    (fun i => (i.name, i.namespaceName, i.projectCode, i.methods, ())) hstrict ?_ ?_ ?_
  · intro i
    exact .cons (fits_required readsExactly_readText ..)
      (.cons (fits_defaulted hnamespace ..)
        (.cons (fits_defaulted hprojectCode ..)
          (.cons (fits_defaulted (readsExactly_readList (Method.readsExactly_read hstrict)) ..)
            .nil)))
  · intro i
    simp [HasDistinctNames, forms, required, defaulted]
  · rintro ⟨name, namespaceName, projectCode, methods, ⟨⟩⟩
      ⟨name', namespaceName', projectCode', methods'⟩
    simp [pure_eq_ok_iff, eq_comm]

theorem Config.readsExactly_read :
    ReadsExactly (Config.read medium) (Config.IsWrittenAs medium) := by
  have htext := @readsExactly_readText φ
  refine readsExactly_record
    (fun c => (c.implSuffix, c.generatorName, c.loggerType, c.loggerFactory, c.formatter,
      c.formattingTuple, c.strictAnnotations, ())) hstrict ?_ ?_ ?_
  · intro c
    exact .cons (fits_defaulted htext ..) (.cons (fits_defaulted htext ..)
      (.cons (fits_defaulted htext ..) (.cons (fits_defaulted htext ..)
        (.cons (fits_defaulted htext ..) (.cons (fits_defaulted htext ..)
          (.cons (fits_defaulted readsExactly_readBool ..) .nil))))))
  · intro c
    simp [HasDistinctNames, forms, defaulted]
  · rintro ⟨implSuffix, generatorName, loggerType, loggerFactory, formatter, formattingTuple,
      strictAnnotations, ⟨⟩⟩ c
    cases c
    simp [pure_eq_ok_iff, eq_comm]

theorem Manifest.readsExactly_read :
    ReadsExactly (Manifest.read medium) (Manifest.IsWrittenAs medium) := by
  refine readsExactly_record (fun m => (m.config, m.interfaces, ())) hstrict ?_ ?_ ?_
  · intro m
    exact .cons (fits_defaulted (Config.readsExactly_read hstrict) ..)
      (.cons (fits_defaulted (readsExactly_readList (Interface.readsExactly_read hstrict)) ..)
        .nil)
  · intro m
    simp [HasDistinctNames, forms, defaulted]
  · rintro ⟨config, interfaces, ⟨⟩⟩ ⟨config', interfaces'⟩
    simp [pure_eq_ok_iff, eq_comm]

end Reading

/-! ### Writing -/

section Writing

variable {medium : Medium φ}

theorem Parameter.isWrittenAs_encode (p : Parameter) : p.IsWrittenAs medium p.encode :=
  isRecord_ofMembers (.required rfl (.required rfl .nil))

theorem AnnotatedMessage.isWrittenAs_encode (a : AnnotatedMessage) :
    a.IsWrittenAs medium a.encode :=
  isRecord_ofMembers (.required rfl (.required rfl .nil))

theorem AnnotatedLogMessage.isWrittenAs_encode (a : AnnotatedLogMessage) :
    a.IsWrittenAs medium a.encode :=
  isRecord_ofMembers (.required rfl (.required rfl (.required rfl .nil)))

theorem Method.isOptional_encodeGetLogger (m : Method) :
    IsOptional (IsGetLogger medium) m.loggerMark (encodeGetLogger m.getLogger) := by
  rw [loggerMark, encodeGetLogger]
  cases m.getLogger with
  | false => rfl
  | true => exact isRecord_ofMembers .nil

theorem Method.isWrittenAs_encode (m : Method) : m.IsWrittenAs medium m.encode := by
  refine isRecord_ofMembers (.required rfl (.defaulted rfl (.defaulted ?_ (.defaulted ?_
    (.defaulted ?_ (.defaulted m.isOptional_encodeGetLogger .nil))))))
  · exact isList_ofList_map Parameter.isWrittenAs_encode m.parameters
  · exact isOptional_ofOption AnnotatedMessage.isWrittenAs_encode m.message
  · exact isOptional_ofOption AnnotatedLogMessage.isWrittenAs_encode m.logMessage

theorem isProjectCode_encodeProjectCode (code : String) :
    IsProjectCode medium code (encodeProjectCode code) :=
  isRecord_ofMembers (.required rfl .nil)

theorem Interface.isWrittenAs_encode (i : Interface) : i.IsWrittenAs medium i.encode := by
  refine isRecord_ofMembers (.required rfl (.defaulted ?_ (.defaulted ?_ (.defaulted ?_ .nil))))
  · cases i.namespaceName <;> rfl
  · exact isOptional_ofOption isProjectCode_encodeProjectCode i.projectCode
  · exact isList_ofList_map Method.isWrittenAs_encode i.methods

theorem Config.isWrittenAs_encode (c : Config) : c.IsWrittenAs medium c.encode :=
  isRecord_ofMembers (.defaulted rfl (.defaulted rfl (.defaulted rfl (.defaulted rfl
    (.defaulted rfl (.defaulted rfl (.defaulted rfl .nil)))))))

/-- A manifest is written in one of its forms. -/
theorem Manifest.isWrittenAs_encode (m : Manifest) : m.IsWrittenAs medium m.encode := by
  refine isRecord_ofMembers (.defaulted m.config.isWrittenAs_encode (.defaulted ?_ .nil))
  exact isList_ofList_map Interface.isWrittenAs_encode m.interfaces

end Writing

/-! ### Manifests from values and from texts -/

theorem Medium.isStrict_values : Medium.values.IsStrict := fun _ => rfl

theorem Json.Document.isStrict_medium : Json.Document.medium.IsStrict := fun _ => rfl

/-- Values that are handed in are whole, and any of them can be passed over. -/
theorem Medium.values_skip (d : Data Empty) : Medium.values.skip d = .ok () := by
  show d.skip = .ok ()
  cases d with
  | list items cut => cases cut with
    | none => rfl
    | some why => exact why.elim
  | map members cut => cases cut with
    | none => rfl
    | some why => exact why.elim
  | flaw onReading => exact onReading.elim
  | _ => rfl

/-- No data are in forms of two manifests. -/
theorem Manifest.IsWrittenAs.unique {medium : Medium φ} (hstrict : medium.IsStrict)
    {m m' : Manifest} {d : Data φ} (h : m.IsWrittenAs medium d) (h' : m'.IsWrittenAs medium d) :
    m = m' := by
  rw [← Manifest.readsExactly_read hstrict] at h h'
  exact Except.ok.inj (h.symm.trans h')

/-- A manifest read from a text in JSON: the text holds one value, in a form of the manifest. -/
theorem Manifest.ofText_json_eq_ok_iff {text : String} {m : Manifest} :
    Manifest.ofText .json text = .ok m ↔
      (Json.Document.ofBytes text.toUTF8.data.toList).trailing = none ∧
        m.IsWrittenAs Json.Document.medium (Json.Document.ofBytes text.toUTF8.data.toList).root := by
  rw [← Manifest.readsExactly_read Json.Document.isStrict_medium, Manifest.ofText,
    Json.Document.read]
  simp only [bind_eq_ok_iff, pure_eq_ok_iff, ← @checkCut_eq_ok_iff TextFault]
  constructor
  · rintro ⟨_, hread, ⟨⟩, htrailing, rfl⟩
    exact ⟨htrailing, hread⟩
  · rintro ⟨htrailing, hread⟩
    exact ⟨m, hread, (), htrailing, rfl⟩

/-- A manifest is read from what it is written as and, both as a value and from a text in JSON,
from all data in one of its forms and from no other data; among them, a value under an unknown
name may be any. -/
theorem Manifest.reads_exactly_its_forms (m : Manifest) :
    Manifest.read .values m.encode = .ok m ∧ m.IsWrittenAs .values m.encode ∧
      (∀ d, Manifest.read .values d = .ok m ↔ m.IsWrittenAs .values d) ∧
      (∀ d : Data Empty, Medium.values.skip d = .ok ()) ∧
      ∀ text, Manifest.ofText .json text = .ok m ↔
        let document := Json.Document.ofBytes text.toUTF8.data.toList
        document.trailing = none ∧ m.IsWrittenAs Json.Document.medium document.root := by
  have hread : ∀ d, Manifest.read .values d = .ok m ↔ m.IsWrittenAs .values d := fun d =>
    Manifest.readsExactly_read Medium.isStrict_values d m
  refine ⟨?_, m.isWrittenAs_encode, hread, Medium.values_skip, fun text => ?_⟩
  · rw [hread]
    exact m.isWrittenAs_encode
  · exact Manifest.ofText_json_eq_ok_iff

/-- A second name, an unknown one, and a method as a list without the fields at its end. -/
example :
    Manifest.read .values
      (.ofMembers
        [("interfaces", .ofList
          [.ofMembers
            [("methods", .ofList [.ofList [.text "log"]]), ("author", .int 1),
              ("name", .text "Log")]])]) =
      .ok { interfaces := [{ name := "Log", methods := [{ name := "log" }] }] } := by
  rfl

end MessageBundle
