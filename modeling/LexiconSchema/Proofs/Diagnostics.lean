import LexiconSchema.Repository
import LexiconSchema.Proofs.DistinctNames
import LexiconSchema.Proofs.Relocation

/-!
# Errors point at their cause

An error that concerns a part of a value tells the path to the part and shows the part
itself. Both go down with the reader separately, so it has to be seen at every place where
an error is made that they still belong together: the path leads from the whole value to
the part, and the part is what the error says it is.

The readers are taken one by one, as in their relocation. Each is looked at under the premise
that the path of its source leads to the source's object.

Main statement: `errors_point_at_their_cause`.
-/

namespace LexiconSchema

open Json (Block Codec Mismatch Value)

/-- The value that a list of names leads to, from object to object. -/
def Json.Value.atPath? (whole : Value) (path : List String) : Option Value :=
  path.foldlM (fun value name => value.entries? >>= findEntry name) whole

/-- One name more leads to what the object has under it. -/
theorem Json.Value.atPath?_append {whole value : Value} {path : List String} {name : String}
    {entries : List (String × Value)} (leads : whole.atPath? path = some (.object entries))
    (found : findEntry name entries = some value) :
    whole.atPath? (path ++ [name]) = some value := by
  rw [atPath?, List.foldlM_append]
  rw [atPath?] at leads
  rw [leads]
  simpa [Value.entries?] using found

/-- What is inside a value that gives every name once does so, too. -/
theorem Json.Value.Distinct.atPath {whole value : Value} {path : List String}
    (distinct : whole.Distinct) (leads : whole.atPath? path = some value) : value.Distinct := by
  induction path generalizing whole with
  | nil => exact Option.some.inj leads ▸ distinct
  | cons name rest inductionHypothesis =>
    cases whole with
    | object entries =>
      cases found : findEntry name entries with
      | none => simp [atPath?, Value.entries?, found] at leads
      | some inner =>
        have later : inner.atPath? rest = some value := by
          simpa [atPath?, Value.entries?, found] using leads
        exact inductionHypothesis (distinct.member (mem_of_findEntry found)) later
    | _ => cases leads

/-- An error points into a value: its path leads there to what it shows, which is not an
object, an object of a kind that does not exist, or just an object, as the error has it.
Version and identifier of a document are told without a path. -/
inductive ParseError.PointsInto (whole : Value) : ParseError → Prop
  | notObject {path : List String} {found : Value} (leads : whole.atPath? path = some found)
      (other : found.entries? = none) : PointsInto whole (.notObject path found)
  | unknownKind {name : String} {path : List String} {node : List (String × Value)}
      (leads : whole.atPath? path = some (.object node))
      (declared : findEntry "type" node = some (.string name))
      (unknown : Kind.ofName? name = none) : PointsInto whole (.unknownKind name path node)
  | shape {path : List String} {reason : Reason} {node : List (String × Value)}
      (leads : whole.atPath? path = some (.object node)) :
      PointsInto whole (.shape path reason node)
  | badVersion {found : Value} : PointsInto whole (.badVersion found)
  | badId {error : IdentifierError} : PointsInto whole (.badId error)

variable {whole : Value}

/-- The path of a source leads to its object. -/
def Source.StandsIn (source : Source) (whole : Value) : Prop :=
  whole.atPath? source.context.path = some (.object source.entries)

namespace Source.StandsIn

variable {source : Source} {name : String}

/-- What is present under a name is where the path leads with the name behind it. -/
theorem present {value : Value} (stands : source.StandsIn whole)
    (found : Value.present? name source.entries = some value) :
    whole.atPath? (source.context.child name).path = some value :=
  Value.atPath?_append stands (Option.eq_some_of_filter_eq_some found)

/-! Faults and single fields. -/

/-- A fault of an object points to where the object stands. -/
theorem fault (stands : source.StandsIn whole) (reason : Reason) :
    (source.fault reason).PointsInto whole := .shape stands

/-- The fault of a leaf is that of its object. -/
theorem leaf {α : Type} (stands : source.StandsIn whole) (kind : Kind)
    (read : List (String × Value) → Except Mismatch α) :
    Blames (ParseError.PointsInto whole) (source.leaf kind read) :=
  .mapError fun _ _ => stands.fault _

/-- The kind: a name that no kind has is what the object shows as its kind. -/
theorem kind (stands : source.StandsIn whole) :
    Blames (ParseError.PointsInto whole) source.kind := by
  unfold Source.kind
  split
  case h_1 => exact .error (stands.fault _)
  case h_2 name declared =>
    cases unknown : Kind.ofName? name with
    | some kind => exact .ok
    | none => exact .error (.unknownKind stands declared unknown)
  case h_3 => exact .error (stands.fault _)

/-- What is read under a name may point to where the name leads. -/
theorem entry? {α : Type} (stands : source.StandsIn whole)
    {read : (value : Value) → sizeOf value < sizeOf source.entries → Except ParseError α}
    (each : ∀ value smaller, whole.atPath? (source.context.child name).path = some value →
      Blames (ParseError.PointsInto whole) (read value smaller)) :
    Blames (ParseError.PointsInto whole) (source.entry? name read) := by
  cases found : Value.present? name source.entries with
  | none => exact Source.entry?_of_absent found read ▸ .ok
  | some value =>
    rw [Source.entry?_of_present found]
    exact .map (each value _ (stands.present found))

/-- What must be there under a name may do so as well. -/
theorem entry {α : Type} (stands : source.StandsIn whole)
    {read : (value : Value) → sizeOf value < sizeOf source.entries → Except ParseError α}
    (each : ∀ value smaller, whole.atPath? (source.context.child name).path = some value →
      Blames (ParseError.PointsInto whole) (read value smaller)) :
    Blames (ParseError.PointsInto whole) (source.entry name read) := by
  refine (stands.entry? each).bind fun found _ => ?_
  cases found with
  | none => exact .error (stands.fault _)
  | some value => exact .ok

/-- A field that does not decode is the fault of its object. -/
theorem field? {α : Type} (stands : source.StandsIn whole) (name : String)
    (decode : Value → Except Mismatch α) (reason : Mismatch → Reason) :
    Blames (ParseError.PointsInto whole) (source.field? name decode reason) :=
  stands.entry? fun _ _ _ => .mapError fun _ _ => stands.fault _

/-- A text that must be there, but is not, is the fault of its object. -/
theorem text (stands : source.StandsIn whole) (name : String) :
    Blames (ParseError.PointsInto whole) (source.text name) := by
  refine (stands.field? name _ _).bind fun found _ => ?_
  cases found with
  | none => exact .error (stands.fault _)
  | some text => exact .ok

/-- The description is the fault of its object. -/
theorem description (stands : source.StandsIn whole) :
    Blames (ParseError.PointsInto whole) source.description := stands.field? "description" _ _

end Source.StandsIn

/-- The errors of a descent point into the value when its paths lead to its entries. -/
def Descent.Points (whole : Value) {around : List (String × Value)} (descent : Descent around) :
    Prop :=
  ∀ context entries smaller, Source.StandsIn ⟨context, entries⟩ whole →
    Blames (ParseError.PointsInto whole) (descent context entries smaller)

/-- A descent points into the value from smaller entries as well. -/
theorem Descent.Points.within {around part : List (String × Value)} {descent : Descent around}
    (points : descent.Points whole) (less : sizeOf part < sizeOf around) :
    (descent.within less).Points whole :=
  fun context entries smaller => points context entries (Nat.lt_trans smaller less)

section
variable {around : List (String × Value)} {descent : Descent around}
  (points : descent.Points whole)
include points

/-- A child is reported at its own place, also when its position does not allow it. -/
theorem readChild_points (position : Position) {context : Context} {value : Value}
    (smaller : sizeOf value < sizeOf around) (leads : whole.atPath? context.path = some value) :
    Blames (ParseError.PointsInto whole) (readChild descent position context value smaller) := by
  cases value with
  | object entries =>
    have stands : Source.StandsIn ⟨context, entries⟩ whole := leads
    unfold readChild
    dsimp only
    split
    · exact .error (stands.fault _)
    · refine (points context entries _ stands).bind fun node _ => ?_
      split
      · exact .ok
      · exact .error (stands.fault _)
  | _ => exact .error (.notObject leads rfl)

/-- The members of a map are reported under their names. -/
theorem readMembers_points (position : Position) {context : Context}
    {members : List (String × Value)}
    (smaller : ∀ member ∈ members, sizeOf member.2 < sizeOf around)
    (leads : ∀ member ∈ members, whole.atPath? (context.child member.1).path = some member.2)
    (sofar : OrderedMap String (Described position.Accepted)) :
    Blames (ParseError.PointsInto whole)
      (readMembers descent position context members smaller sofar) := by
  induction members generalizing sofar with
  | nil => exact .ok
  | cons member rest inductionHypothesis =>
    obtain ⟨first, later⟩ := List.forall_mem_cons.mp leads
    unfold readMembers
    exact (readChild_points points position _ first).bind fun node _ =>
      inductionHypothesis _ later _

end

section
variable {source : Source} {descent : Descent source.entries} (distinct : whole.Distinct)
  (stands : source.StandsIn whole) (points : descent.Points whole)
include stands points

/-- A child that must be there is reported under its name. -/
theorem entryChild_points (name : String) (position : Position) :
    Blames (ParseError.PointsInto whole) (source.entry name fun value smaller =>
      readChild descent position (source.context.child name) value smaller) :=
  stands.entry fun _ smaller leads => readChild_points points position smaller leads

/-- A child that may be absent is reported under its name. -/
theorem entryChild?_points (name : String) (position : Position) :
    Blames (ParseError.PointsInto whole) (source.entry? name fun value smaller =>
      readChild descent position (source.context.child name) value smaller) :=
  stands.entry? fun _ smaller leads => readChild_points points position smaller leads

include distinct in
/-- Among distinct names every member of a map is what its name leads to. The context of the
members may be another one than that of the source, but it has the same path. -/
theorem readMap_points (name : String) (position : Position) {context : Context}
    (same : context.path = source.context.path) :
    Blames (ParseError.PointsInto whole) (readMap source descent name position context) := by
  refine (stands.entry? fun value smaller leads => ?_).bind fun _ _ => .ok
  split
  case h_1 members _ =>
    have names := (distinct.atPath leads).names
    refine readMembers_points points position _ (fun member inside => ?_) .empty
    have found := findEntry_of_mem names inside
    have through : whole.atPath? (context.child name).path = some (.object members) := by
      rw [← leads, Context.child, Context.child, same]
    exact Value.atPath?_append through found
  case h_2 => exact .ok
  case h_3 => exact .error (stands.fault _)

/-! The composite kinds. -/

/-- Arrays: items are reported at their place, everything else with the array. -/
theorem readArray_points :
    Blames (ParseError.PointsInto whole) (readArray source descent) :=
  (entryChild_points stands points "items" .arrayItems).bind fun _ _ =>
    (stands.leaf .array _).bind fun _ _ => stands.description.bind fun _ _ => .ok

include distinct in
/-- Objects: properties are reported at their places, everything else with the object. -/
theorem readObject_points :
    Blames (ParseError.PointsInto whole) (readObject source descent) :=
  stands.description.bind fun _ _ =>
    (readMap_points distinct stands points "properties" .objectProperty rfl).bind fun _ _ =>
      (stands.field? "required" _ _).bind fun _ _ =>
        (stands.field? "nullable" _ _).bind fun _ _ => .ok

omit points in
/-- An array among parameters is reported with all the parameters. -/
theorem checkedParameters_points
    (parameters : List (String × Described (OrArray ParameterElement Element)))
    (sofar : OrderedMap String (Described Parameter)) :
    Blames (ParseError.PointsInto whole) (checkedParameters source parameters sofar) := by
  induction parameters generalizing sofar with
  | nil => exact .ok
  | cons entry rest inductionHypothesis =>
    unfold checkedParameters
    refine Blames.bind ?_ fun checked _ => inductionHypothesis _
    unfold checkedParameter
    split
    · exact .ok
    · split
      · exact .ok
      · exact .error (stands.fault _)

include distinct in
/-- Parameters: properties are reported at their places, everything else with the parameters. -/
theorem readParameters_points :
    Blames (ParseError.PointsInto whole) (readParameters source descent) :=
  (readMap_points distinct stands points "properties" .paramsProperty rfl).bind fun _ _ =>
    (checkedParameters_points stands _ _).bind fun _ _ =>
      stands.description.bind fun _ _ => (stands.field? "required" _ _).bind fun _ _ => .ok

omit points in
/-- References are reported as a whole. -/
theorem readReference_points :
    Blames (ParseError.PointsInto whole) (readReference source) :=
  (stands.text "ref").bind fun _ _ => stands.description.bind fun _ _ => .ok

omit points in
/-- A member of a union that is no text is reported with the whole union. -/
theorem unionItems_points (items : List Value) :
    Blames (ParseError.PointsInto whole) (items.mapM (readUnionMember source)) := by
  induction items with
  | nil => exact .ok
  | cons item rest inductionHypothesis =>
    rw [List.mapM_cons]
    refine Blames.bind ?_ fun _ _ => inductionHypothesis.bind fun _ _ => .ok
    cases item with
    | string target => exact .ok
    | _ => exact .error (stands.fault _)

omit points in
/-- Members that are not listed are reported so, too. -/
theorem readUnionMembers_points :
    Blames (ParseError.PointsInto whole) (readUnionMembers source) := by
  unfold readUnionMembers
  split
  · exact .error (stands.fault _)
  · exact unionItems_points stands _
  · exact .ok
  · exact .error (stands.fault _)

omit points in
/-- Unions are reported as a whole. -/
theorem readUnion_points :
    Blames (ParseError.PointsInto whole) (readUnion source) :=
  (readUnionMembers_points stands).bind fun _ _ => stands.description.bind fun _ _ =>
    (stands.field? "closed" _ _).bind fun _ _ => .ok

omit points in
/-- The pattern of a record's key is reported with the record. -/
theorem readRecordKey_points :
    Blames (ParseError.PointsInto whole) (readRecordKey source) := by
  refine (stands.field? "key" _ _).bind fun found _ => ?_
  cases found with
  | none => exact .ok
  | some text =>
    dsimp only
    split
    · exact .ok
    · exact .error (stands.fault _)

/-- Records: the object is reported at its place, everything else with the record. -/
theorem readRecord_points :
    Blames (ParseError.PointsInto whole) (readRecord source descent) :=
  (readRecordKey_points stands).bind fun _ _ =>
    (entryChild_points stands points "record" .recordObject).bind fun _ _ =>
      stands.description.bind fun _ _ => .ok

/-- Inputs and outputs: the schema is reported at its place, everything else with the object
around. -/
theorem readBodyObject_points :
    Blames (ParseError.PointsInto whole) (readBodyObject source descent) :=
  stands.description.bind fun _ _ => (stands.text "encoding").bind fun _ _ =>
    (entryChild?_points stands points "schema" .bodySchema).bind fun _ _ => .ok

/-- Messages: the schema is reported at its place, everything else with the object around. -/
theorem readMessageObject_points :
    Blames (ParseError.PointsInto whole) (readMessageObject source descent) :=
  stands.description.bind fun _ _ =>
    (entryChild?_points stands points "schema" .messageSchema).bind fun _ _ => .ok

/-- A part of a method is reported at its own place. -/
theorem readPart_points {α : Type} {name : String}
    {read : (part : Source) → Descent part.entries → Except ParseError α}
    (each : ∀ (part : Source) (inner : Descent part.entries), part.StandsIn whole →
      inner.Points whole → Blames (ParseError.PointsInto whole) (read part inner)) :
    Blames (ParseError.PointsInto whole) (readPart source descent name read) := by
  refine stands.entry? fun value smaller leads => ?_
  cases value with
  | object entries => exact each _ _ leads (points.within _)
  | _ => exact .error (.notObject leads rfl)

omit points in
/-- The errors of a method are reported with the method. -/
theorem readErrors_points : Blames (ParseError.PointsInto whole) (readErrors source) :=
  stands.field? "errors" _ _

/-- Methods that read: parts are reported at their places, everything else with the method. -/
theorem readQuery_points :
    Blames (ParseError.PointsInto whole) (readQuery source descent) :=
  stands.description.bind fun _ _ =>
    (entryChild?_points stands points "parameters" .parameters).bind fun _ _ =>
      (readPart_points stands points fun _ _ => readBodyObject_points).bind fun _ _ =>
        (readErrors_points stands).bind fun _ _ => .ok

/-- Methods that write: parts are reported at their places, everything else with the method. -/
theorem readProcedure_points :
    Blames (ParseError.PointsInto whole) (readProcedure source descent) :=
  stands.description.bind fun _ _ =>
    (entryChild?_points stands points "parameters" .parameters).bind fun _ _ =>
      (readPart_points stands points fun _ _ => readBodyObject_points).bind fun _ _ =>
        (readPart_points stands points fun _ _ => readBodyObject_points).bind fun _ _ =>
          (readErrors_points stands).bind fun _ _ => .ok

/-- Streams: parts are reported at their places, everything else with the method. -/
theorem readSubscription_points :
    Blames (ParseError.PointsInto whole) (readSubscription source descent) :=
  stands.description.bind fun _ _ =>
    (entryChild?_points stands points "parameters" .parameters).bind fun _ _ =>
      (readPart_points stands points fun _ _ => readMessageObject_points).bind fun _ _ =>
        (readErrors_points stands).bind fun _ _ => .ok

include distinct in
/-- Whatever the kind, the error of its reader points into the whole value. -/
theorem readKind_points (kind : Kind) :
    Blames (ParseError.PointsInto whole) (readKind source descent kind) := by
  cases kind with
  | array => exact readArray_points stands points
  | object => exact readObject_points distinct stands points
  | params => exact readParameters_points distinct stands points
  | ref => exact readReference_points stands
  | union => exact readUnion_points stands
  | record => exact readRecord_points stands points
  | query => exact readQuery_points stands points
  | procedure => exact readProcedure_points stands points
  | subscription => exact readSubscription_points stands points
  | _ => exact .map (stands.leaf _ _)

end

/-- Errors of nodes point into the value around them. The recursion is that of the reader: the
entries of a node inside are smaller. -/
theorem Node.ofEntries_points (distinct : whole.Distinct) (context : Context)
    (entries : List (String × Value)) (stands : Source.StandsIn ⟨context, entries⟩ whole) :
    Blames (ParseError.PointsInto whole) (Node.ofEntries context entries) := by
  rw [Node.ofEntries]
  refine stands.kind.bind fun kind _ => readKind_points distinct stands ?_ kind
  intro inner part smaller
  exact Node.ofEntries_points distinct inner part
termination_by sizeOf entries

/-! Documents. -/

namespace Document

variable {source : Source}

/-- The head of a document is reported with the document, or by what stands for the version or the
identifier. -/
theorem readHead_points (stands : source.StandsIn whole) :
    Blames (ParseError.PointsInto whole) (readHead source) := by
  have version : Blames (ParseError.PointsInto whole) (checkVersion source) := by
    unfold checkVersion
    split
    · exact .error (stands.fault _)
    · split
      · exact .ok
      · exact .error .badVersion
    · exact .error .badVersion
  refine version.bind fun _ _ => (stands.text "id").bind fun text _ => ?_
  unfold identify
  split
  · exact .error (stands.fault _)
  · exact .mapError fun _ _ => .badId

/-- The definitions are read in another context, whose path is that of the document. -/
theorem readBody_points (distinct : whole.Distinct) (stands : source.StandsIn whole)
    (id : Identifier) : Blames (ParseError.PointsInto whole) (readBody source id) := by
  have revision : Blames (ParseError.PointsInto whole) (readRevision source) :=
    stands.field? "revision" _ _
  have points : (Descent.whole source.entries).Points whole :=
    fun context entries _ => Node.ofEntries_points distinct context entries
  have definitions := readMap_points distinct stands points "defs" .definition
    (show Context.path { source.context with base := some id } = source.context.path from rfl)
  exact revision.bind fun _ _ => definitions.bind fun _ _ => stands.description.bind fun _ _ => .ok

/-- Whatever is wrong with a document is reported where it stands. -/
theorem ofEntries_points (distinct : whole.Distinct) {context : Context}
    {entries : List (String × Value)} (stands : Source.StandsIn ⟨context, entries⟩ whole) :
    Blames (ParseError.PointsInto whole) (ofEntries context entries) :=
  (readHead_points stands).bind fun id _ => readBody_points distinct stands id

end Document

/-! What a user sees. -/

/-- A path is shown from `$` on, with a dot before each name. -/
theorem pathText_eq (path : List String) :
    pathText path = "$" ++ String.join (path.map ("." ++ ·)) := by
  have behind (start : String) : path.foldl (fun text segment => text ++ "." ++ segment) start =
      start ++ String.join (path.map ("." ++ ·)) := by
    induction path generalizing start with
    | nil => simp
    | cons name rest inductionHypothesis =>
      rw [List.foldl_cons, inductionHypothesis]
      simp [String.append_assoc]
  exact behind "$"

/-- A value is shown by its compact text, of which at most 240 characters are left. -/
theorem excerpt_eq (value : Value) :
    excerpt value = if value.write.length ≤ 240 then value.write
      else String.ofList (value.write.toList.take 240) ++ "..." := by
  simp [excerpt, excerptLimit, String.length_toList]

/-- A name that is no kind's is not found among the kinds, which are all listed. -/
theorem Kind.name_ne_of_ofName? {name : String} (unknown : Kind.ofName? name = none) (kind : Kind) :
    kind.name ≠ name := by
  rintro rfl
  rw [Kind.ofName?_name] at unknown
  cases unknown

/-- An error tells of a part of a value: names lead to the part from object to object, and the
message shows `$` with the names, a dot before each, and the compact text of the part. -/
structure ParseError.TellsOf (error : ParseError) (whole : Value) (path : List String)
    (part : Value) (before between : String) : Prop where
  leads : whole.atPath? path = some part
  message : error.message = before ++ ("$" ++ String.join (path.map ("." ++ ·))) ++ between ++
    if part.write.length ≤ 240 then part.write
    else String.ofList (part.write.toList.take 240) ++ "..."

/-- The part that an error tells of is what the error blames: no object, an object whose kind
is none of the kinds, or an object of which the reason holds. -/
inductive ParseError.Explained (whole : Value) : ParseError → Prop
  | notObject {path : List String} {part : Value}
      (tells : (ParseError.notObject path part).TellsOf whole path part
        "Expected a JSON object at " ", got ")
      (other : ∀ entries, part ≠ .object entries) : Explained whole (.notObject path part)
  | unknownKind {name : String} {path : List String} {node : List (String × Value)}
      (tells : (ParseError.unknownKind name path node).TellsOf whole path (.object node)
        ("No parser registered for type '" ++ name ++ "' at ") ": ")
      (declared : findEntry "type" node = some (.string name))
      (unknown : ∀ kind : Kind, kind.name ≠ name) : Explained whole (.unknownKind name path node)
  | shape {path : List String} {reason : Reason} {node : List (String × Value)}
      (tells : (ParseError.shape path reason node).TellsOf whole path (.object node)
        "Invalid schema at " (": " ++ reason.message ++ ": ")) :
      Explained whole (.shape path reason node)
  | badVersion {found : Value} : Explained whole (.badVersion found)
  | badId {error : IdentifierError} : Explained whole (.badId error)

/-- An error that points into a value explains itself. -/
theorem ParseError.PointsInto.explained {error : ParseError} (points : error.PointsInto whole) :
    error.Explained whole := by
  cases points with
  | @notObject path part leads other =>
    refine .notObject ⟨leads, ?_⟩ fun entries same => ?_
    · rw [← pathText_eq, ← excerpt_eq]
      rfl
    · rw [same] at other
      cases other
  | @unknownKind name path node leads declared unknown =>
    refine .unknownKind ⟨leads, ?_⟩ declared (Kind.name_ne_of_ofName? unknown)
    rw [← pathText_eq, ← excerpt_eq]
    rfl
  | @shape path reason node leads =>
    refine .shape ⟨leads, ?_⟩
    rw [← pathText_eq, ← excerpt_eq]
    change "Invalid schema at " ++ _ ++ ": " ++ _ ++ ": " ++ _ = _
    simp only [String.append_assoc]
  | badVersion => exact .badVersion
  | badId => exact .badId

/-- A value is refused with an error: as a schema, as a node or as a document, by the plain
reader or by that of a repository, whatever the repository keeps. -/
inductive Json.Value.Refused (value : Value) : ParseError → Prop
  | schema {error : ParseError} (refused : Schema.ofValue value = .error error) :
      Refused value error
  | node {error : ParseError} (refused : Node.ofValue {} value = .error error) :
      Refused value error
  | document {error : ParseError} (refused : Document.ofValue value = .error error) :
      Refused value error
  | schemaThrough {error : ParseError} (repository : Repository)
      (refused : (repository.read value).1 = .error error) : Refused value error
  | nodeThrough {error : ParseError} (repository : Repository)
      (refused : repository.readNode value = .error error) : Refused value error
  | documentThrough {error : ParseError} (repository : Repository)
      (refused : (repository.readDocument value).1 = .error error) : Refused value error

section
variable (distinct : whole.Distinct)
include distinct

/-- At the top a value is a node, unless it is no object or is that of a document. -/
theorem Node.ofValue_points {context : Context} (top : context.path = []) :
    Blames (ParseError.PointsInto whole) (Node.ofValue context whole) := by
  have leads : whole.atPath? context.path = some whole := by rw [top]; rfl
  cases whole with
  | object entries =>
    rw [Node.ofValue]
    split
    · exact .error (.shape leads)
    · exact Node.ofEntries_points distinct context entries leads
  | _ => exact .error (.notObject leads rfl)

/-- Reading through a repository reads head and body in the repository's context. -/
theorem Repository.readEntries_points {entries : List (String × Value)}
    (repository : Repository) (same : whole = .object entries) :
    Blames (ParseError.PointsInto whole) (repository.readEntries entries).1 := by
  have stands : Source.StandsIn ⟨repository.context, entries⟩ whole := by rw [same]; rfl
  rw [readEntries]
  dsimp only
  cases head : Document.readHead ⟨repository.context, entries⟩ with
  | error fault => exact .error (Document.readHead_points stands fault head)
  | ok id =>
    dsimp only
    cases repository.get? id with
    | some kept => exact .ok
    | none =>
      dsimp only
      cases body : Document.readBody ⟨repository.context, entries⟩ id with
      | error fault => exact .error (Document.readBody_points distinct stands id fault body)
      | ok document => exact .ok

/-- Whoever refuses a value points into it. -/
theorem Json.Value.Refused.points {error : ParseError} (refused : whole.Refused error) :
    error.PointsInto whole := by
  cases refused with
  | schema refused =>
    cases whole with
    | object entries =>
      have stands : Source.StandsIn ⟨{}, entries⟩ (Value.object entries) := rfl
      rw [Schema.ofValue] at refused
      split at refused
      · exact (Document.ofEntries_points distinct stands).map _ refused
      · exact (Node.ofEntries_points distinct _ _ stands).map _ refused
    | _ =>
      obtain rfl := Except.error.inj refused
      exact .notObject rfl rfl
  | node refused => exact Node.ofValue_points distinct rfl _ refused
  | document refused =>
    cases whole with
    | object entries =>
      have stands : Source.StandsIn ⟨{}, entries⟩ (Value.object entries) := rfl
      rw [Document.ofValue, Document.entriesOf] at refused
      split at refused
      · exact Document.ofEntries_points distinct stands _ refused
      · obtain rfl := Except.error.inj refused
        exact stands.fault _
    | _ =>
      obtain rfl := Except.error.inj refused
      exact .notObject rfl rfl
  | schemaThrough repository refused =>
    cases whole with
    | object entries =>
      have stands : Source.StandsIn ⟨repository.context, entries⟩ (Value.object entries) := rfl
      rw [Repository.read] at refused
      split at refused
      · exact (Repository.readEntries_points distinct repository rfl).map _ refused
      · exact (Node.ofEntries_points distinct _ _ stands).map _ refused
    | _ =>
      obtain rfl := Except.error.inj refused
      exact .notObject rfl rfl
  | nodeThrough repository refused => exact Node.ofValue_points distinct rfl _ refused
  | documentThrough repository refused =>
    cases whole with
    | object entries =>
      rw [Repository.readDocument, Document.entriesOf] at refused
      by_cases isWhole : isDocument entries = true
      · rw [if_pos isWhole] at refused
        exact Repository.readEntries_points distinct repository rfl _ refused
      · rw [if_neg isWhole] at refused
        obtain rfl := Except.error.inj refused
        exact .shape rfl
    | _ =>
      obtain rfl := Except.error.inj refused
      exact .notObject rfl rfl

end

/-- Whatever is refused as a schema, as a node or as a document, the error tells where: the
names of its path lead to a part of the value, which the message shows and the error blames. -/
theorem errors_point_at_their_cause (value : Value) (distinct : value.Distinct)
    (error : ParseError) (refused : value.Refused error) : error.Explained value :=
  (refused.points distinct).explained

/-- A procedure whose input has no encoding. -/
private def unencodedEntries : List (String × Value) :=
  [("type", .string "procedure"), ("input", .object [])]

/-- The missing encoding is reported of the input, not of the procedure. -/
theorem errors_point_at_their_cause_input :
    (Value.object unencodedEntries).Distinct ∧
      Node.ofValue {} (.object unencodedEntries) =
        .error (.shape ["input"] (.missing "encoding") []) ∧
      (ParseError.shape ["input"] (.missing "encoding") []).Explained
        (.object unencodedEntries) := by
  have distinct : (Value.object unencodedEntries).Distinct := by simp [unencodedEntries]
  have refused : Node.ofValue {} (.object unencodedEntries) =
      .error (.shape ["input"] (.missing "encoding") []) := by
    change Node.ofEntries {} unencodedEntries = _
    rw [Node.ofEntries]
    rfl
  exact ⟨distinct, refused, errors_point_at_their_cause _ distinct _ (.node refused)⟩

end LexiconSchema
