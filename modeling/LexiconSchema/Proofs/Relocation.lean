import LexiconSchema.Document.Reader
import LexiconSchema.Proofs.Attachment
import LexiconSchema.Proofs.Outcomes

/-!
# Reading a node elsewhere

The context of a reader decides nothing: read inside other surroundings, the same
entries give the same node with its references moved there, or the same error at
a longer path. The proof follows the readers one by one. Each takes the nodes
inside from a descent, so each is compared under the premise that the two descents
correspond; the recursion over the value supplies that premise once, at the end.

Main statements: `Node.ofEntries_inside`, and that the references of a node that
was read are those of its context.
-/

namespace LexiconSchema

open Json (Block Codec FieldCodec Mismatch Value)

/-- The context as it is when its path starts inside another one, whose document
and repository take the place of its own. -/
def Context.inside (outer context : Context) : Context :=
  ⟨outer.path ++ context.path, outer.base, outer.repository⟩

/-- The reference as it would have been declared in the context. -/
def Context.adopt (context : Context) (reference : Reference) : Reference :=
  context.reference reference.target

/-- The object being read, with its context inside another one. -/
@[reducible] def Source.inside (outer : Context) (source : Source) : Source :=
  ⟨outer.inside source.context, source.entries⟩

/-- The error with its path behind another one. -/
def ParseError.inside (outer : List String) : ParseError → ParseError
  | .notObject path found => .notObject (outer ++ path) found
  | .unknownKind name path node => .unknownKind name (outer ++ path) node
  | .shape path reason node => .shape (outer ++ path) reason node
  | other => other

/-- The second reading is the first one moved inside the context. -/
abbrev Relocated {α β : Type} (outer : Context) (moved : α → β) :
    Except ParseError α → Except ParseError β → Prop :=
  SideBySide (fun error other => other = error.inside outer.path) (fun a b => b = moved a)

/-- Two readings in sequence, each moved. -/
theorem Relocated.bind {α β γ κ : Type} {outer : Context} {moved : α → β} {carried : γ → κ}
    {left : Except ParseError α} {right : Except ParseError β} {next : α → Except ParseError γ}
    {other : β → Except ParseError κ} (first : Relocated outer moved left right)
    (second : ∀ a, Relocated outer carried (next a) (other (moved a))) :
    Relocated outer carried (left >>= next) (right >>= other) :=
  SideBySide.bind first fun a b same => by subst same; exact second a

/-- A content of a position with its references replaced. -/
def Position.mapReferences (f : Reference → Reference) :
    (position : Position) → position.Accepted → position.Accepted
  | .arrayItems, held => held.mapReferences f
  | .objectProperty, held => Property.mapReferences f held
  | .paramsProperty, .single held => .single held
  | .paramsProperty, .array held => .array (held.mapReferences f)
  | .recordObject, held => held.mapReferences f
  | .parameters, held => held
  | .bodySchema, held => held.mapReferences f
  | .messageSchema, held => held.mapReferences f
  | .unionMember, held => f held
  | .definition, held => held.mapReferences f

/-- A position accepts a content whatever its references are. -/
theorem Position.accept_mapReferences (f : Reference → Reference) (position : Position)
    (content : Content) :
    position.accept (content.mapReferences f) =
      (position.accept content).map (position.mapReferences f) := by
  cases position <;> cases content with
  | element element =>
    cases element with
    | scalar scalar => rfl
    | _ => rfl
  | _ => rfl

namespace Context

/-- Going down to an entry and moving inside may be done in either order. -/
theorem inside_child (outer context : Context) (name : String) :
    outer.inside (context.child name) = (outer.inside context).child name := by
  simp [inside, child]

/-- An adopted reference keeps its text. -/
theorem adopt_target (context : Context) (reference : Reference) :
    (context.adopt reference).target = reference.target := rfl

end Context

namespace Source

/-- An absent entry is read as nothing. -/
theorem entry?_of_absent {α : Type} {source : Source} {name : String}
    (absent : Value.present? name source.entries = none)
    (read : (value : Value) → sizeOf value < sizeOf source.entries → Except ParseError α) :
    source.entry? name read = .ok none := by
  unfold entry?
  split
  case h_1 => rfl
  case h_2 value found =>
    rw [absent] at found
    cases found

/-- A present entry is read. -/
theorem entry?_of_present {α : Type} {source : Source} {name : String} {value : Value}
    (present : Value.present? name source.entries = some value)
    (read : (value : Value) → sizeOf value < sizeOf source.entries → Except ParseError α) :
    source.entry? name read = (read value (Value.sizeOf_present? present)).map some := by
  unfold entry?
  split
  case h_1 found =>
    rw [present] at found
    cases found
  case h_2 other found =>
    have same : other = value := Option.some.inj (found.symm.trans present)
    subst same
    rfl

section
variable {α : Type} {source : Source} {name : String} {decode : Value → Except Mismatch α}
  {reason : Mismatch → Reason}

/-- An absent field is read as nothing. -/
theorem field?_of_absent (absent : Value.present? name source.entries = none) :
    source.field? name decode reason = .ok none := entry?_of_absent absent _

/-- A present field is decoded. -/
theorem field?_of_present {value : Value}
    (present : Value.present? name source.entries = some value) :
    source.field? name decode reason =
      ((decode value).mapError fun mismatch => source.fault (reason mismatch)).map some :=
  entry?_of_present present _

end

variable {outer : Context} {source : Source}

/-! Faults and single fields. -/

/-- A leaf is read alike inside other surroundings. -/
theorem leaf_inside {α : Type} (kind : Kind)
    (read : List (String × Value) → Except Mismatch α) :
    Relocated outer id (source.leaf kind read) ((source.inside outer).leaf kind read) := by
  unfold leaf
  dsimp only
  cases read source.entries with
  | error mismatch => exact .error rfl
  | ok held => exact .ok rfl

/-- The kind is read alike. -/
theorem kind_inside : Relocated outer id source.kind (source.inside outer).kind := by
  unfold kind
  dsimp only
  split
  · exact .error rfl
  · split
    · exact .ok rfl
    · exact .error rfl
  · exact .error rfl

/-- What stands under a name is read alike if the readings of its value are alike. -/
theorem entry?_inside {α β : Type} {moved : α → β} {name : String}
    {read : (value : Value) → sizeOf value < sizeOf source.entries → Except ParseError α}
    {other : (value : Value) → sizeOf value < sizeOf source.entries → Except ParseError β}
    (related : ∀ value smaller, Relocated outer moved (read value smaller) (other value smaller)) :
    Relocated outer (Option.map moved) ( source.entry? name read)
      ( Source.entry? (source.inside outer) name other) := by
  cases present : Value.present? name source.entries with
  | none =>
    rw [entry?_of_absent present, @entry?_of_absent _ (source.inside outer) _ present]
    exact .ok rfl
  | some value =>
    rw [entry?_of_present present, @entry?_of_present _ (source.inside outer) _ _ present]
    exact (related value _).map fun a b same => by rw [same]; rfl

/-- What must stand under a name is read alike as well. -/
theorem entry_inside {α β : Type} {moved : α → β} {name : String}
    {read : (value : Value) → sizeOf value < sizeOf source.entries → Except ParseError α}
    {other : (value : Value) → sizeOf value < sizeOf source.entries → Except ParseError β}
    (related : ∀ value smaller, Relocated outer moved (read value smaller) (other value smaller)) :
    Relocated outer moved (source.entry name read) ((source.inside outer).entry name other) := by
  refine Relocated.bind (entry?_inside related) fun found => ?_
  cases found with
  | none => exact .error rfl
  | some value => exact .ok rfl

/-- A field is decoded alike inside other surroundings, or the same object is at fault there. -/
theorem field?_inside {α : Type} (name : String) (decode : Value → Except Mismatch α)
    (reason : Mismatch → Reason) : Relocated outer id (source.field? name decode reason)
      ((source.inside outer).field? name decode reason) := by
  have decoded : Relocated outer (Option.map id) (source.field? name decode reason)
      ((source.inside outer).field? name decode reason) := by
    refine entry?_inside fun value _ => ?_
    cases decode value with
    | error mismatch => exact .error rfl
    | ok held => exact .ok rfl
  rwa [Option.map_id] at decoded

/-- A text that may be absent is read alike. -/
theorem text?_inside (name : String) :
    Relocated outer id (source.text? name) ((source.inside outer).text? name) :=
  field?_inside name _ _

/-- A text that must be there is read alike. -/
theorem text_inside (name : String) :
    Relocated outer id (source.text name) ((source.inside outer).text name) := by
  refine Relocated.bind (text?_inside name) fun found => ?_
  cases found with
  | none => exact .error rfl
  | some text => exact .ok rfl

/-- The description is read alike. -/
theorem description_inside :
    Relocated outer id source.description (source.inside outer).description :=
  text?_inside "description"

end Source

/-- Two descents correspond when the second, inside the context, reads every node
as the first one moved there. -/
def Descent.Relocates (outer : Context) {around : List (String × Value)}
    (descent other : Descent around) : Prop :=
  ∀ context entries smaller, Relocated outer (Node.mapReferences outer.adopt)
    (descent context entries smaller) (other (outer.inside context) entries smaller)

/-- Descents that correspond do so inside smaller entries. -/
theorem Descent.Relocates.within {outer : Context} {around part : List (String × Value)}
    {descent other : Descent around} (agree : descent.Relocates outer other)
    (less : sizeOf part < sizeOf around) :
    (descent.within less).Relocates outer (other.within less) :=
  fun context entries smaller => agree context entries (Nat.lt_trans smaller less)

section
variable {outer : Context} {around : List (String × Value)} {descent other : Descent around}
  (agree : descent.Relocates outer other)
include agree

/-- A child's position is checked after the child was read, on both sides alike. -/
theorem readChild_inside (position : Position) (context : Context) (value : Value)
    (smaller : sizeOf value < sizeOf around) :
    Relocated outer (Described.map (position.mapReferences outer.adopt))
      (readChild descent position context value smaller)
      (readChild other position (outer.inside context) value smaller) := by
  cases value with
  | object entries =>
    unfold readChild
    dsimp only
    split
    · exact .error rfl
    · refine Relocated.bind (agree context entries _) fun node => ?_
      have accepted : position.accept (node.mapReferences outer.adopt).content =
          (position.accept node.content).map (position.mapReferences outer.adopt) :=
        position.accept_mapReferences outer.adopt node.content
      rw [accepted]
      cases position.accept node.content with
      | none =>
        rw [Node.kind_mapReferences]
        exact .error rfl
      | some content => exact .ok rfl
  | _ => exact .error rfl

/-- The members of a map are read alike one after the other, and gathered under the same names. -/
theorem readMembers_inside (position : Position) (context : Context)
    (members : List (String × Value))
    (smaller : ∀ member ∈ members, sizeOf member.2 < sizeOf around)
    (sofar : OrderedMap String (Described position.Accepted)) :
    Relocated outer (OrderedMap.mapValues (Described.map (position.mapReferences outer.adopt)))
      (readMembers descent position context members smaller sofar)
      (readMembers other position (outer.inside context) members smaller
        (sofar.mapValues (Described.map (position.mapReferences outer.adopt)))) := by
  induction members generalizing sofar with
  | nil => exact .ok rfl
  | cons member rest inductionHypothesis =>
    obtain ⟨name, value⟩ := member
    unfold readMembers
    rw [← Context.inside_child]
    refine Relocated.bind (readChild_inside agree position (context.child name) value _)
      fun node => ?_
    rw [← OrderedMap.mapValues_insert]
    exact inductionHypothesis _ _

end

section
variable {outer : Context} {source : Source} {descent other : Descent source.entries}
  (agree : descent.Relocates outer other)
include agree

/-- A child under a name that must be present is read alike, its references moved. -/
theorem entryChild_inside (name : String) (position : Position) :
    Relocated outer (Described.map (position.mapReferences outer.adopt))
      (source.entry name fun value smaller =>
        readChild descent position (source.context.child name) value smaller)
      ((source.inside outer).entry name fun value smaller =>
        readChild other position ((source.inside outer).context.child name) value smaller) := by
  refine Source.entry_inside fun value smaller => ?_
  dsimp only
  rw [← Context.inside_child]
  exact readChild_inside agree position _ value smaller

/-- A child under a name that may be absent is read alike, its references moved. -/
theorem entryChild?_inside (name : String) (position : Position) :
    Relocated outer (Option.map (Described.map (position.mapReferences outer.adopt)))
      ( source.entry? name fun value smaller =>
        readChild descent position (source.context.child name) value smaller)
      ( Source.entry? (source.inside outer) name fun value smaller =>
        readChild other position ((source.inside outer).context.child name) value smaller) := by
  refine Source.entry?_inside fun value smaller => ?_
  dsimp only
  rw [← Context.inside_child]
  exact readChild_inside agree position _ value smaller

/-- Maps of nodes are read alike, member by member. -/
theorem readMap_inside (name : String) (position : Position) (context : Context) :
    Relocated outer (OrderedMap.mapValues (Described.map (position.mapReferences outer.adopt)))
      (readMap source descent name position context)
      (readMap (source.inside outer) other name position (outer.inside context)) := by
  refine Relocated.bind (show Relocated outer (Option.map
    (OrderedMap.mapValues (Described.map (position.mapReferences outer.adopt)))) _ _ from
      Source.entry?_inside fun value smaller => ?_) fun found => ?_
  · split
    · rw [← Context.inside_child]
      exact readMembers_inside agree position (context.child name) _ _ .empty
    · exact .ok rfl
    · exact .error rfl
  · cases found with
    | none => exact .ok rfl
    | some map => exact .ok rfl

omit agree in
/-- Of a map's own context only the path is looked at, for faults. -/
theorem readMap_of_path {context other : Context} (same : context.path = other.path)
    {entries : List (String × Value)} (descent : Descent entries) (name : String)
    (position : Position) (inner : Context) :
    readMap ⟨context, entries⟩ descent name position inner =
      readMap ⟨other, entries⟩ descent name position inner := by
  unfold readMap
  cases present : Value.present? name entries with
  | none =>
    rw [@Source.entry?_of_absent _ ⟨context, entries⟩ _ present,
      @Source.entry?_of_absent _ ⟨other, entries⟩ _ present]
  | some value =>
    rw [@Source.entry?_of_present _ ⟨context, entries⟩ _ _ present,
      @Source.entry?_of_present _ ⟨other, entries⟩ _ _ present]
    cases value with
    | object members => rfl
    | array items => cases items <;> simp [Source.fault, same]
    | _ => simp [Source.fault, same]

/-! The composite kinds. -/

/-- Arrays are read alike, their items' references moved. -/
theorem readArray_inside :
    Relocated outer (Node.mapReferences outer.adopt) (readArray source descent)
      (readArray (source.inside outer) other) := by
  refine Relocated.bind (entryChild_inside agree "items" .arrayItems) fun items => ?_
  refine Relocated.bind (Source.leaf_inside .array _) fun bounds => ?_
  refine Relocated.bind Source.description_inside fun description => ?_
  exact .ok rfl

/-- Objects are read alike, their properties' references moved. -/
theorem readObject_inside :
    Relocated outer (Node.mapReferences outer.adopt) (readObject source descent)
      (readObject (source.inside outer) other) := by
  refine Relocated.bind Source.description_inside fun description => ?_
  refine Relocated.bind (readMap_inside agree "properties" .objectProperty source.context)
    fun properties => ?_
  refine Relocated.bind (Source.field?_inside "required" _ _) fun required => ?_
  refine Relocated.bind (Source.field?_inside "nullable" _ _) fun nullable => ?_
  exact .ok rfl

omit agree in
/-- The arrays among parameters hold no references, so moving them changes nothing. -/
theorem checkedParameter_inside (name : String)
    (parameter : Described (OrArray ParameterElement Element)) :
    Relocated outer id (checkedParameter source name parameter)
      (checkedParameter (source.inside outer) name
        (parameter.map (Position.mapReferences outer.adopt .paramsProperty))) := by
  obtain ⟨description, content⟩ := parameter
  cases content with
  | single held => exact .ok rfl
  | array held =>
    obtain ⟨⟨described, element⟩, bounds⟩ := held
    cases element with
    | scalar scalar => exact .ok rfl
    | unknown => exact .ok rfl
    | _ => exact .error rfl

omit agree in
/-- The check of the arrays among parameters looks at their items' kinds, which stay. -/
theorem checkedParameters_inside
    (parameters : List (String × Described (OrArray ParameterElement Element)))
    (sofar : OrderedMap String (Described Parameter)) :
    Relocated outer id (checkedParameters source parameters sofar)
      (checkedParameters (source.inside outer)
        (parameters.map fun entry =>
          (entry.1, entry.2.map (Position.mapReferences outer.adopt .paramsProperty))) sofar) := by
  induction parameters generalizing sofar with
  | nil => exact .ok rfl
  | cons entry rest inductionHypothesis =>
    obtain ⟨name, parameter⟩ := entry
    exact Relocated.bind (checkedParameter_inside name parameter) fun checked =>
      inductionHypothesis _

/-- Parameters are read alike, the checks of their arrays included. -/
theorem readParameters_inside :
    Relocated outer (Node.mapReferences outer.adopt) (readParameters source descent)
      (readParameters (source.inside outer) other) := by
  refine Relocated.bind (readMap_inside agree "properties" .paramsProperty source.context)
    fun candidates => ?_
  refine Relocated.bind (checkedParameters_inside candidates.entries .empty) fun properties => ?_
  refine Relocated.bind Source.description_inside fun description => ?_
  refine Relocated.bind (Source.field?_inside "required" _ _) fun required => ?_
  exact .ok rfl

omit agree in
/-- A reference is declared in the context, and so moved with it. -/
theorem readReference_inside :
    Relocated outer (Node.mapReferences outer.adopt) (readReference source)
      (readReference (source.inside outer)) := by
  refine Relocated.bind (Source.text_inside "ref") fun target => ?_
  refine Relocated.bind Source.description_inside fun description => ?_
  exact .ok rfl

omit agree in
/-- The members of a union are moved one by one. -/
theorem unionItems_inside (items : List Value) :
    Relocated outer (List.map outer.adopt) (items.mapM (readUnionMember source))
      (items.mapM (readUnionMember (source.inside outer))) := by
  induction items with
  | nil => exact .ok rfl
  | cons item rest inductionHypothesis =>
    simp only [List.mapM_cons]
    have first : Relocated outer outer.adopt (readUnionMember source item)
        (readUnionMember (source.inside outer) item) := by
      cases item with
      | string target => exact .ok rfl
      | _ => exact .error rfl
    refine Relocated.bind first fun member => ?_
    refine Relocated.bind inductionHypothesis fun members => ?_
    exact .ok rfl

omit agree in
/-- The members of a union, however they are given. -/
theorem readUnionMembers_inside :
    Relocated outer (List.map outer.adopt) (readUnionMembers source)
      (readUnionMembers (source.inside outer)) := by
  unfold readUnionMembers
  dsimp only
  split
  · exact .error rfl
  · exact unionItems_inside _
  · exact .ok rfl
  · exact .error rfl

omit agree in
/-- Unions are read alike, their members moved. -/
theorem readUnion_inside :
    Relocated outer (Node.mapReferences outer.adopt) (readUnion source)
      (readUnion (source.inside outer)) := by
  refine Relocated.bind readUnionMembers_inside fun members => ?_
  refine Relocated.bind Source.description_inside fun description => ?_
  refine Relocated.bind (Source.field?_inside "closed" _ _) fun closed => ?_
  exact .ok rfl

omit agree in
/-- The pattern of a record's key is read alike. -/
theorem readRecordKey_inside :
    Relocated outer id (readRecordKey source) (readRecordKey (source.inside outer)) := by
  refine Relocated.bind (Source.text?_inside "key") fun found => ?_
  cases found with
  | none => exact .ok rfl
  | some text =>
    dsimp only [id]
    split
    · exact .ok rfl
    · exact .error rfl

/-- Records are read alike, the references of their objects moved. -/
theorem readRecord_inside :
    Relocated outer (Node.mapReferences outer.adopt) (readRecord source descent)
      (readRecord (source.inside outer) other) := by
  refine Relocated.bind readRecordKey_inside fun key => ?_
  refine Relocated.bind (entryChild_inside agree "record" .recordObject) fun object => ?_
  refine Relocated.bind Source.description_inside fun description => ?_
  exact .ok rfl

/-- The parameters of a method, which have no references. -/
theorem readMethodParameters_inside :
    Relocated outer id (readMethodParameters source descent)
      (readMethodParameters (source.inside outer) other) := by
  have read := entryChild?_inside agree "parameters" .parameters
  have unchanged : Option.map (Described.map (Position.parameters.mapReferences outer.adopt)) =
      id := by
    funext parameters
    cases parameters <;> rfl
  rw [unchanged] at read
  exact read

/-- Inputs and outputs are read alike, the references of their schemas moved. -/
theorem readBodyObject_inside :
    Relocated outer (Described.map (Body.mapReferences outer.adopt)) (readBodyObject source descent)
      (readBodyObject (source.inside outer) other) := by
  refine Relocated.bind Source.description_inside fun description => ?_
  refine Relocated.bind (Source.text_inside "encoding") fun encoding => ?_
  refine Relocated.bind (entryChild?_inside agree "schema" .bodySchema) fun schema => ?_
  exact .ok rfl

/-- A subscription's messages are read alike, the references of their schema moved. -/
theorem readMessageObject_inside :
    Relocated outer (Described.map (Message.mapReferences outer.adopt))
      (readMessageObject source descent) (readMessageObject (source.inside outer) other) := by
  refine Relocated.bind Source.description_inside fun description => ?_
  refine Relocated.bind (entryChild?_inside agree "schema" .messageSchema) fun schema => ?_
  exact .ok rfl

end

/-- A part of a method that has no kind of its own. -/
theorem readPart_inside {α β : Type} {outer : Context} {source : Source}
    {descent other : Descent source.entries} (agree : descent.Relocates outer other)
    {moved : α → β} {name : String}
    {read : (part : Source) → Descent part.entries → Except ParseError α}
    {readOther : (part : Source) → Descent part.entries → Except ParseError β}
    (related : ∀ (part : Source) (inner otherInner : Descent part.entries),
      inner.Relocates outer otherInner →
        Relocated outer moved (read part inner) (readOther (part.inside outer) otherInner)) :
    Relocated outer (Option.map moved) (readPart source descent name read)
      (readPart (source.inside outer) other name readOther) := by
  refine Source.entry?_inside fun value smaller => ?_
  dsimp only
  rw [← Context.inside_child]
  cases value with
  | object entries => exact related _ _ _ (agree.within _)
  | _ => exact .error rfl

section
variable {outer : Context} {source : Source}

/-- The errors of a method are read alike. -/
theorem readErrors_inside :
    Relocated outer id (readErrors source) (readErrors (source.inside outer)) :=
  Source.field?_inside "errors" _ _

/-- Leaves with constraints, none of which is a reference. -/
theorem readConstrained_inside {σ : Type} (kind : Kind) (block : Block σ)
    {content : σ → Element} (plain : ∀ held f, (content held).mapReferences f = content held) :
    Relocated outer (Node.mapReferences outer.adopt) (readConstrained source kind block content)
      (readConstrained (source.inside outer) kind block content) := by
  refine SideBySide.map (Source.leaf_inside kind (readLeaf block)) ?_
  rintro _ held rfl
  simp [Node.mapReferences, Described.map, Content.mapReferences, plain]

/-- Leaves with nothing but a description are read alike. -/
theorem readBare_inside (kind : Kind) {content : Content}
    (plain : ∀ f, content.mapReferences f = content) :
    Relocated outer (Node.mapReferences outer.adopt) (readBare source kind content)
      (readBare (source.inside outer) kind content) := by
  refine SideBySide.map (Source.leaf_inside kind tokenBlock.ofEntries) ?_
  rintro _ held rfl
  simp [Node.mapReferences, Described.map, plain]

variable {descent other : Descent source.entries} (agree : descent.Relocates outer other)
include agree

/-- Methods that read are read alike, their parts' references moved. -/
theorem readQuery_inside :
    Relocated outer (Node.mapReferences outer.adopt) (readQuery source descent)
      (readQuery (source.inside outer) other) := by
  refine Relocated.bind Source.description_inside fun description => ?_
  refine Relocated.bind (readMethodParameters_inside agree) fun parameters => ?_
  refine Relocated.bind (readPart_inside agree fun _ _ _ inner => readBodyObject_inside inner)
    fun output => ?_
  refine Relocated.bind readErrors_inside fun errors => ?_
  exact .ok rfl

/-- Methods that write are read alike, their parts' references moved. -/
theorem readProcedure_inside :
    Relocated outer (Node.mapReferences outer.adopt) (readProcedure source descent)
      (readProcedure (source.inside outer) other) := by
  refine Relocated.bind Source.description_inside fun description => ?_
  refine Relocated.bind (readMethodParameters_inside agree) fun parameters => ?_
  refine Relocated.bind (readPart_inside agree fun _ _ _ inner => readBodyObject_inside inner)
    fun input => ?_
  refine Relocated.bind (readPart_inside agree fun _ _ _ inner => readBodyObject_inside inner)
    fun output => ?_
  refine Relocated.bind readErrors_inside fun errors => ?_
  exact .ok rfl

/-- Methods that answer with a stream are read alike, their parts' references moved. -/
theorem readSubscription_inside :
    Relocated outer (Node.mapReferences outer.adopt) (readSubscription source descent)
      (readSubscription (source.inside outer) other) := by
  refine Relocated.bind Source.description_inside fun description => ?_
  refine Relocated.bind (readMethodParameters_inside agree) fun parameters => ?_
  refine Relocated.bind (readPart_inside agree fun _ _ _ inner => readMessageObject_inside inner)
    fun message => ?_
  refine Relocated.bind readErrors_inside fun errors => ?_
  exact .ok rfl

/-- Nodes of every kind are read alike, their references moved. -/
theorem readKind_inside (kind : Kind) :
    Relocated outer (Node.mapReferences outer.adopt) (readKind source descent kind)
      (readKind (source.inside outer) other kind) := by
  cases kind with
  | boolean => exact readConstrained_inside .boolean _ fun _ _ => rfl
  | integer => exact readConstrained_inside .integer _ fun _ _ => rfl
  | number => exact readConstrained_inside .number _ fun _ _ => rfl
  | string =>
    refine SideBySide.map (Source.leaf_inside .string StringSchema.ofEntries) ?_
    rintro _ held rfl
    rfl
  | bytes => exact readConstrained_inside .bytes _ fun _ _ => rfl
  | cidLink => exact readBare_inside .cidLink fun _ => rfl
  | unknown => exact readBare_inside .unknown fun _ => rfl
  | token => exact readBare_inside .token fun _ => rfl
  | blob => exact readConstrained_inside .blob _ fun _ _ => rfl
  | image => exact readConstrained_inside .image _ fun _ _ => rfl
  | video => exact readConstrained_inside .video _ fun _ _ => rfl
  | audio => exact readConstrained_inside .audio _ fun _ _ => rfl
  | array => exact readArray_inside agree
  | object => exact readObject_inside agree
  | params => exact readParameters_inside agree
  | ref => exact readReference_inside
  | union => exact readUnion_inside
  | record => exact readRecord_inside agree
  | query => exact readQuery_inside agree
  | procedure => exact readProcedure_inside agree
  | subscription => exact readSubscription_inside agree

end

/-- Read inside other surroundings, entries give the same node moved there, or the
same error at the longer path. The recursion is that of the reader: the entries of
a node inside are smaller. -/
theorem Node.ofEntries_inside (outer context : Context) (entries : List (String × Value)) :
    Relocated outer (Node.mapReferences outer.adopt) (Node.ofEntries context entries)
      (Node.ofEntries (outer.inside context) entries) := by
  rw [Node.ofEntries, Node.ofEntries]
  refine Relocated.bind (@Source.kind_inside outer ⟨context, entries⟩) fun kind => ?_
  refine @readKind_inside outer ⟨context, entries⟩ _ _ ?_ kind
  intro inner part smaller
  exact Node.ofEntries_inside outer inner part
termination_by sizeOf entries

/-- The descent that reads nodes of any kind. -/
abbrev Descent.whole (around : List (String × Value)) : Descent around :=
  fun context entries _ => Node.ofEntries context entries

/-- The descent into whole nodes corresponds to itself. -/
theorem Descent.whole_relocates (outer : Context) (around : List (String × Value)) :
    (Descent.whole around).Relocates outer (Descent.whole around) :=
  fun context entries _ => Node.ofEntries_inside outer context entries

/-- A node that was read has the references of its context. Moving it to where it is
already leaves it as it is, so each of its references is an adopted one. -/
theorem Node.references_of_ofEntries {context : Context} {entries : List (String × Value)}
    {node : Node} (read : Node.ofEntries context entries = .ok node) :
    ∀ reference ∈ Node.references node,
      reference.base = context.base ∧ reference.repository = context.repository := by
  have again := Node.ofEntries_inside { context with path := [] } context entries
  have stays : Node.ofEntries (Context.inside { context with path := [] } context) entries =
      .ok node := read
  rw [read, stays] at again
  cases again with
  | ok same =>
    intro reference member
    rw [same, Node.references_mapReferences] at member
    obtain ⟨declared, _, rfl⟩ := List.mem_map.mp member
    exact ⟨rfl, rfl⟩

/-- The document as it would have been read in the context, whose repository its
references are attached to. The document around them is always itself. -/
def Document.inside (outer : Context) (document : Document) : Document :=
  document.mapReferences (Context.adopt { outer with base := some document.id })

/-- The identifier of a head was read from the text under its name, which names no
definition. -/
theorem Document.readHead_text (source : Source) :
    Yields (fun id => ∃ text, source.text "id" = .ok text ∧ '#' ∉ text.toList ∧
      Identifier.parse text = .ok id) (Document.readHead source) := by
  refine .bind fun _ _ => .bind fun text found => ?_
  rw [Document.identify]
  by_cases whole : text.toList.contains '#'
  · rw [if_pos whole]
    exact .error
  · rw [if_neg whole]
    cases parsed : Identifier.parse text with
    | error fault => exact .error
    | ok id => exact .ok ⟨text, found, by simpa using whole, parsed⟩

section
variable {outer : Context} {source : Source}

/-- The head of a document has no references and is read alike. -/
theorem readHead_inside :
    Relocated outer id (Document.readHead source) (Document.readHead (source.inside outer)) := by
  have version : Relocated outer id (Document.checkVersion source)
      (Document.checkVersion (source.inside outer)) := by
    unfold Document.checkVersion
    dsimp only
    split
    · exact .error rfl
    · split
      · exact .ok rfl
      · exact .error rfl
    · exact .error rfl
  refine Relocated.bind version fun _ => ?_
  refine Relocated.bind (Source.text_inside "id") fun text => ?_
  dsimp only [id]
  unfold Document.identify
  split
  · exact .error rfl
  · cases Identifier.parse text with
    | error error => exact .error rfl
    | ok identifier => exact .ok rfl

/-- The revision of a document is read alike. -/
theorem readRevision_inside :
    Relocated outer id (Document.readRevision source)
      (Document.readRevision (source.inside outer)) :=
  Source.field?_inside "revision" _ _

/-- The body's definitions are read in the document itself, on both sides. -/
theorem Document.readBody_inside (identifier : Identifier) :
    Relocated outer (Document.inside outer) (Document.readBody source identifier)
      (Document.readBody (source.inside outer) identifier) := by
  let around : Context := { outer with base := some identifier }
  have definitions := @readMap_inside around source _ _
    (Descent.whole_relocates around source.entries) "defs" .definition
    { source.context with base := some identifier }
  rw [readMap_of_path (show (around.inside source.context).path = (outer.inside source.context).path
    from rfl)] at definitions
  refine Relocated.bind readRevision_inside fun revision => ?_
  refine Relocated.bind (show Relocated outer _ _ _ from definitions) fun found => ?_
  refine Relocated.bind Source.description_inside fun description => ?_
  exact .ok rfl

/-- Read inside other surroundings, the entries of a document give the same document
with its references attached there, or the same error at the longer path. -/
theorem Document.ofEntries_inside (context : Context) (entries : List (String × Value)) :
    Relocated outer (Document.inside outer) (Document.ofEntries context entries)
      (Document.ofEntries (outer.inside context) entries) := by
  refine Relocated.bind (@readHead_inside outer ⟨context, entries⟩)
    fun identifier => ?_
  exact @Document.readBody_inside outer ⟨context, entries⟩ identifier

end

end LexiconSchema
