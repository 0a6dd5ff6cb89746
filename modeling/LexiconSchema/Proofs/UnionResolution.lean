import LexiconSchema.Proofs.Agreement
import LexiconSchema.Proofs.Refusals

/-!
# Unions resolve member by member

The members of a union are resolved one after the other, and each may load a document and so change
the repository for the next. It does not matter: a load that succeeds adds the one document that was
asked for, and that is the document that loading its identifier would have given before. So what a
repository supplies is the same after a member was resolved, whether a document is kept by now or
still to be read from its file. A load that fails may add a document of another identifier, but then
the whole resolution ends.

Main statement: `unions_resolve_like_members`.
-/

namespace LexiconSchema

open Json (Value)

namespace Repository

/-- The document that loading an identifier gives, if it gives one. -/
def supply (files : FileTree) (repository : Repository) (id : Identifier) : Option Document :=
  (repository.load files id).1.toOption.join.map fun kept => kept.document

/-- The node that resolving an identifier gives, if it gives one. -/
def nodeOf (files : FileTree) (repository : Repository) (id : Identifier) : Option Node :=
  (repository.supply files id).bind fun document => document.definition? id.definition

/-- The later repository keeps what the earlier one kept, and loading gives the same documents in
both. -/
structure Supplies (files : FileTree) (before after : Repository) : Prop where
  extended : before.Extends noneExempt after
  same : ∀ id, after.supply files id = before.supply files id

section
variable {α β ε δ : Type} {outcome : Except ε α × Repository} {fault : ε → δ}
  {next : α → Repository → Except δ β × Repository} {last : Repository}

/-- A sequence succeeds exactly if both of its parts do. -/
theorem andThen_eq_ok_iff {result : β} : andThen outcome fault next = (.ok result, last) ↔
    ∃ first between, outcome = (.ok first, between) ∧ next first between = (.ok result, last) := by
  obtain ⟨answer, between⟩ := outcome
  cases answer <;> simp [andThen]

/-- A sequence fails exactly if its first part does, or its second part does after the first. -/
theorem andThen_eq_error_iff {error : δ} : andThen outcome fault next = (.error error, last) ↔
    (∃ first, outcome = (.error first, last) ∧ fault first = error) ∨
      ∃ first between, outcome = (.ok first, between) ∧
        next first between = (.error error, last) := by
  obtain ⟨answer, between⟩ := outcome
  cases answer <;> simp [andThen, and_comm]

end

section
variable {files : FileTree} {before between after repository : Repository} {id : Identifier}

/-- A repository supplies what it has. -/
theorem Supplies.refl : Supplies files repository repository := ⟨.refl, fun _ => rfl⟩

/-- What is supplied by one repository after the other is supplied by the last. -/
theorem Supplies.trans (first : Supplies files before between)
    (second : Supplies files between after) : Supplies files before after where
  extended := first.extended.trans second.extended
  same id := (second.same id).trans (first.same id)

/-- A repository that supplies another one has the same nodes. -/
theorem Supplies.nodeOf (supplies : Supplies files before after) :
    after.nodeOf files = before.nodeOf files :=
  funext fun id => by rw [Repository.nodeOf, Repository.nodeOf, supplies.same]

/-! What the files hold depends on the document asked for and on the setup. -/

/-- What the files have does not depend on the definition. -/
theorem filed_of_document {other : Identifier} (same : other.document = id.document) :
    filed files repository other = filed files repository id := by
  rw [filed, filed, locate?_document, same, ← locate?_document]
  simp only [ofFile, same]

/-- What the files have stays the same while a repository grows. -/
theorem filed_of_extends {exempt : Identifier → Prop} (step : before.Extends exempt after) :
    filed files after id = filed files before id := by
  simp only [filed, locate?, step.config, step.handle]

/-- The files hold nothing for an identifier if what its file reads as is another document. -/
theorem filed_eq_none {path : String} (located : locate? files repository id = some path)
    (foreign : ∀ entries document, fileEntries files path = .ok entries →
      Document.ofEntries repository.context entries = .ok document →
        document.id.document ≠ id.document) :
    (filed files repository id).toOption.join = none := by
  rw [filed_of_located located]
  cases read : ofFile files repository.handle id path with
  | error error => rfl
  | ok document =>
    obtain ⟨entries, content, later⟩ := bind_eq_ok_iff.mp read
    obtain ⟨own, made, last⟩ := bind_eq_ok_iff.mp later
    rw [if_neg (foreign entries own content (mapError_eq_ok_iff.mp made))] at last
    cases last

/-- The document supplied is the one kept, else the one in the file. -/
theorem supply_eq (sound : repository.Sound) :
    repository.supply files id = ((repository.get? id).map fun kept => kept.document).or
      (filed files repository id).toOption.join := by
  have loads := load_cases files sound id
  rw [supply]
  generalize repository.load files id = outcome at loads ⊢
  cases loads with
  | kept found =>
    rw [found]
    rfl
  | nowhere absent unlocated =>
    rw [absent, filed, unlocated]
    rfl
  | unusable absent located content =>
    rw [absent, filed_eq_none located]
    · rfl
    · intro entries document again
      cases content.symm.trans again
  | refused absent located content read =>
    rw [absent, filed_eq_none located]
    · rfl
    · intro entries document again made
      cases content.symm.trans again
      cases read.symm.trans made
  | @foreignKept path entries other kept absent located content head found =>
    rw [absent, filed_eq_none located]
    · rfl
    · intro entries document again made own
      cases content.symm.trans again
      obtain rfl := Except.ok.inj ((readHead_of_ofEntries made).symm.trans head)
      -- The kept document would be one of the identifier asked for, so it would have been found.
      rw [get?, own] at found
      cases absent.symm.trans found
  | foreignStored absent located content read head foreign missing =>
    rw [absent, filed_eq_none located]
    · rfl
    · intro entries document again made
      cases content.symm.trans again
      cases read.symm.trans made
      exact foreign
  | stored absent located content read head own =>
    rw [absent, filed_of_located located, ofFile_of_read content read own]
    rfl

/-- A load that succeeds changes nothing about what a repository supplies. -/
theorem supplies_of_load (sound : repository.Sound) {kept : Kept}
    (loaded : repository.load files id = (.ok (some kept), after)) :
    Supplies files repository after := by
  have extended := (load_cases files sound id).extends
  have given := load_of_some sound (congrArg Prod.fst loaded)
  rw [loaded] at extended given
  refine ⟨extended, fun other => ?_⟩
  rcases given with ⟨-, unchanged⟩ | ⟨-, added⟩
  · rw [show after = repository from unchanged]
  · -- The new document is supplied from now on by the repository, and before it was by its file.
    by_cases same : id.document = other.document
    · have here : after.get? other = some kept := by
        rw [get?, added, OrderedMap.get?_insert, if_pos same]
      have before : repository.supply files other = some kept.document := by
        have asked : repository.supply files id = some kept.document := by
          rw [supply, loaded]
          rfl
        rw [← asked, supply_eq sound, supply_eq sound, filed_of_document same.symm, get?, get?, same]
      rw [supply_eq (extended.sound sound), here, before]
      rfl
    · have elsewhere : after.get? other = repository.get? other := by
        rw [get?, get?, added, OrderedMap.get?_insert, if_neg same]
      rw [supply_eq (extended.sound sound), supply_eq sound, elsewhere, filed_of_extends extended]

/-- What resolving gives is found again, as the same instance, as long as nothing is replaced. -/
structure Finds (files : FileTree) (repository : Repository) (id : Identifier) (found : Found)
    (after : Repository) : Prop where
  supplies : Supplies files repository after
  node : repository.nodeOf files id = some found.node
  again : ∀ later, after.Extends noneExempt later → later.resolve files id = (.ok found, later)

/-- What an identifier resolves to is what the repository has under it, and is found again
afterwards. -/
theorem finds_of_resolve (sound : repository.Sound) {found : Found}
    (resolved : repository.resolve files id = (.ok found, after)) :
    Finds files repository id found after := by
  have resolves := resolve_cases files repository id
  rw [resolved] at resolves
  cases resolves with
  | @found kept node after loaded held =>
    have there : after.get? id = some kept := by
      have given := load_of_some sound (congrArg Prod.fst loaded)
      rw [loaded] at given
      rcases given with ⟨found, unchanged⟩ | ⟨-, added⟩
      · rw [show after = repository from unchanged]
        exact found
      · rw [get?, added, OrderedMap.get?_insert, if_pos rfl]
    refine ⟨supplies_of_load sound loaded, ?_, fun later extended => ?_⟩
    · rw [nodeOf, supply, loaded]
      exact held
    · have still : later.get? id = some kept := extended.same _ _ there not_false
      rw [(gives_of_get? still).resolve files, held]

/-- An identifier that does not resolve has no node. -/
theorem nodeOf_of_error {error : ResolutionError}
    (resolved : repository.resolve files id = (.error error, after)) :
    repository.nodeOf files id = none := by
  have resolves := resolve_cases files repository id
  rw [resolved] at resolves
  rw [nodeOf, supply]
  cases resolves with
  | unloaded loaded =>
    rw [loaded]
    rfl
  | missing loaded =>
    rw [loaded]
    rfl
  | undefined loaded absent =>
    rw [loaded]
    exact absent

end

end Repository

open Repository (Supplies Extends noneExempt)

/-! One reference. -/

/-- The node that following a reference in a repository gives, if it gives one. -/
def Reference.nodeIn (files : FileTree) (repository : Repository) (reference : Reference) :
    Option Node :=
  if reference.repository = some repository.handle then
    reference.targetIdentifier.toOption.bind (repository.nodeOf files)
  else none

/-- What following a reference gives is found again, as the same instance, as long as nothing is
replaced. -/
structure Reference.Finds (files : FileTree) (repository : Repository) (reference : Reference)
    (found : Found) (after : Repository) : Prop where
  supplies : Supplies files repository after
  node : reference.nodeIn files repository = some found.node
  again : ∀ later, after.Extends noneExempt later →
    reference.followIn later (Repository.resolve files) = (.ok found, later)

section
variable {files : FileTree} {before between after repository : Repository} {reference : Reference}

/-- A reference leads to the same node in a repository that supplies another one. -/
theorem Reference.nodeIn_of_supplies (supplies : Supplies files before after) :
    Reference.nodeIn files after = Reference.nodeIn files before := by
  funext reference
  rw [nodeIn, nodeIn, supplies.extended.handle, supplies.nodeOf]

/-- What a reference is followed to is what the repository has for it, and is found again
afterwards. -/
theorem Reference.finds_of_followIn (sound : repository.Sound) {found : Found}
    (followed : reference.followIn repository (Repository.resolve files) = (.ok found, after)) :
    reference.Finds files repository found after := by
  rw [followIn] at followed
  by_cases attached : reference.repository = some repository.handle
  · rw [if_pos attached] at followed
    cases target : reference.targetIdentifier with
    | error error =>
      rw [target] at followed
      cases followed
    | ok id =>
      rw [target] at followed
      obtain ⟨supplies, node, again⟩ := Repository.finds_of_resolve sound followed
      refine ⟨supplies, ?_, fun later extended => ?_⟩
      · rw [nodeIn, if_pos attached, target]
        exact node
      · have handle := (supplies.extended.trans extended).handle
        rw [followIn, if_pos (by rw [attached, handle]), target]
        exact again later extended
  · rw [if_neg attached] at followed
    cases followed

/-- A reference that cannot be followed leads to no node. -/
theorem Reference.nodeIn_of_error {error : ResolutionError}
    (followed : reference.followIn repository (Repository.resolve files) = (.error error, after)) :
    reference.nodeIn files repository = none := by
  rw [nodeIn]
  split
  case isTrue attached =>
    rw [followIn, if_pos attached] at followed
    cases target : reference.targetIdentifier with
    | error error => rfl
    | ok id =>
      rw [target] at followed
      exact Repository.nodeOf_of_error followed
  case isFalse => rfl

/-! All references, one after the other. -/

/-- The first reference is followed, and the others in the repository that this leaves. -/
theorem followEach_cons_eq_ok_iff {rest : List Reference} {founds : List Found} :
    followEach files (reference :: rest) repository = (.ok founds, after) ↔
      ∃ found between others,
        reference.followIn repository (Repository.resolve files) = (.ok found, between) ∧
        followEach files rest between = (.ok others, after) ∧ founds = found :: others := by
  simp only [followEach, Repository.andThen_eq_ok_iff, Prod.mk.injEq, Except.ok.injEq]
  constructor
  · rintro ⟨found, between, followed, others, last, onward, rfl, rfl⟩
    exact ⟨found, between, others, followed, onward, rfl⟩
  · rintro ⟨found, between, others, followed, onward, rfl⟩
    exact ⟨found, between, followed, others, after, onward, rfl, rfl⟩

/-- Either the first reference cannot be followed, or one of the others cannot. -/
theorem followEach_cons_eq_error_iff {rest : List Reference} {error : ResolutionError} :
    followEach files (reference :: rest) repository = (.error error, after) ↔
      reference.followIn repository (Repository.resolve files) = (.error error, after) ∨
      ∃ found between,
        reference.followIn repository (Repository.resolve files) = (.ok found, between) ∧
        followEach files rest between = (.error error, after) := by
  simp [followEach, Repository.andThen_eq_error_iff]

/-- What each reference gives is found again afterwards, and is what the reference would have given
at the start. -/
theorem followEach_finds {references : List Reference} {founds : List Found}
    (sound : repository.Sound)
    (followed : followEach files references repository = (.ok founds, after)) :
    Supplies files repository after ∧
    (∀ later, after.Extends noneExempt later → List.Forall₂ (fun reference found =>
      reference.followIn later (Repository.resolve files) = (.ok found, later)) references founds) ∧
    references.map (Reference.nodeIn files repository) =
      founds.map fun found => some found.node := by
  induction references generalizing repository founds with
  | nil =>
    cases followed
    exact ⟨.refl, fun _ _ => .nil, rfl⟩
  | cons reference rest inductionHypothesis =>
    obtain ⟨found, between, others, first, later, rfl⟩ := followEach_cons_eq_ok_iff.mp followed
    obtain ⟨supplies, node, again⟩ := Reference.finds_of_followIn sound first
    obtain ⟨onward, others, nodes⟩ := inductionHypothesis (supplies.extended.sound sound) later
    rw [Reference.nodeIn_of_supplies supplies] at nodes
    refine ⟨supplies.trans onward, fun last extended => ?_, ?_⟩
    · exact .cons (again last (onward.extended.trans extended)) (others last extended)
    · rw [List.map_cons, List.map_cons, node, nodes]

/-- Behind a reference that cannot be followed nothing is looked at. -/
theorem followEach_stops {earlier : List Reference} {founds : List Found} {error : ResolutionError}
    (succeeded : followEach files earlier repository = (.ok founds, between))
    (failed : reference.followIn between (Repository.resolve files) = (.error error, after))
    (later : List Reference) :
    followEach files (earlier ++ reference :: later) repository = (.error error, after) := by
  induction earlier generalizing repository founds with
  | nil =>
    cases succeeded
    exact followEach_cons_eq_error_iff.mpr (.inl failed)
  | cons first rest inductionHypothesis =>
    obtain ⟨found, middle, others, followed, onward, rfl⟩ :=
      followEach_cons_eq_ok_iff.mp succeeded
    exact followEach_cons_eq_error_iff.mpr
      (.inr ⟨found, middle, followed, inductionHypothesis onward⟩)

/-- If not all can be followed, there is a first one that cannot. -/
theorem followEach_fails {references : List Reference} {error : ResolutionError}
    (followed : followEach files references repository = (.error error, after)) :
    ∃ earlier failing later founds between, references = earlier ++ failing :: later ∧
      followEach files earlier repository = (.ok founds, between) ∧
      failing.followIn between (Repository.resolve files) = (.error error, after) := by
  induction references generalizing repository with
  | nil => cases followed
  | cons reference rest inductionHypothesis =>
    rcases followEach_cons_eq_error_iff.mp followed with failed | ⟨found, middle, first, onward⟩
    · exact ⟨[], reference, rest, [], repository, rfl, rfl, failed⟩
    · obtain ⟨earlier, failing, later, founds, between, rfl, succeeded, failed⟩ :=
        inductionHypothesis onward
      exact ⟨reference :: earlier, failing, later, found :: founds, between, rfl,
        followEach_cons_eq_ok_iff.mpr ⟨found, middle, founds, first, succeeded, rfl⟩, failed⟩

/-- All are followed exactly if each could be followed at the start. -/
theorem followEach_succeeds_iff (sound : repository.Sound) {references : List Reference} :
    (∃ founds last, followEach files references repository = (.ok founds, last)) ↔
      ∀ reference ∈ references, (reference.nodeIn files repository).isSome := by
  constructor
  · rintro ⟨founds, last, followed⟩ reference member
    obtain ⟨-, -, nodes⟩ := followEach_finds sound followed
    have listed : reference.nodeIn files repository ∈ founds.map fun found => some found.node := by
      rw [← nodes]
      exact List.mem_map_of_mem member
    obtain ⟨found, -, same⟩ := List.mem_map.mp listed
    rw [← same]
    rfl
  · intro each
    cases followed : followEach files references repository with
    | mk answer last =>
      cases answer with
      | ok founds => exact ⟨founds, last, rfl⟩
      | error error =>
        obtain ⟨earlier, failing, later, founds, between, rfl, succeeded, stopped⟩ :=
          followEach_fails followed
        obtain ⟨supplies, -, -⟩ := followEach_finds sound succeeded
        have present := each failing (List.mem_append_right _ List.mem_cons_self)
        rw [← Reference.nodeIn_of_supplies supplies, Reference.nodeIn_of_error stopped] at present
        cases present

end

/-! Unions in a live repository. -/

/-- Resolving a reference by itself in a repository succeeds. -/
def Reference.ResolvesIn (files : FileTree) (repository : Repository) (reference : Reference) :
    Prop :=
  ∃ found live, reference.resolve files (some repository) = (.ok found, live)

/-- The items at given positions, in the order of these. -/
def rearranged {α : Type} (order : List Nat) (items : List α) : List α :=
  order.filterMap (items[·]?)

/-- Items may be changed before or after they are rearranged. -/
theorem rearranged_map {α β : Type} (f : α → β) (order : List Nat) (items : List α) :
    (rearranged order items).map f = rearranged order (items.map f) := by
  simp [rearranged, List.map_filterMap]

/-- Rearranging adds no items. -/
theorem mem_of_mem_rearranged {α : Type} {order : List Nat} {items : List α} {item : α}
    (member : item ∈ rearranged order items) : item ∈ items := by
  obtain ⟨position, -, found⟩ := List.mem_filterMap.mp member
  exact List.mem_of_getElem? found

section
variable {files : FileTree} {repository : Repository}

/-- A live repository stays alive. -/
theorem alive_iff {α : Type} {outcome : Answer α} {answer : Except ResolutionError α}
    {live : Option Repository} : outcome.map id some = (answer, live) ↔
      ∃ after, live = some after ∧ outcome = (answer, after) := by
  obtain ⟨answer, after⟩ := outcome
  constructor
  · rintro same
    cases same
    exact ⟨after, rfl, rfl⟩
  · rintro ⟨last, rfl, same⟩
    cases same
    rfl

/-- In a repository that is alive a reference resolves as it is followed there. -/
theorem Reference.resolve_eq_iff {reference : Reference} {answer : Except ResolutionError Found}
    {live : Option Repository} : reference.resolve files (some repository) = (answer, live) ↔
      ∃ after, live = some after ∧
        reference.followIn repository (Repository.resolve files) = (answer, after) := by
  rw [resolve, inRepository_some, alive_iff]

/-- In a repository that is alive a union resolves as its members are followed there. -/
theorem Union.resolve_eq_iff {union : Union} {answer : Except ResolutionError (List Found)}
    {live : Option Repository} : union.resolve files (some repository) = (answer, live) ↔
      ∃ after, live = some after ∧ followEach files union.members repository = (answer, after) := by
  rw [resolve, resolveAll_some, alive_iff]

/-- A reference leads to a node exactly if it resolves. -/
theorem Reference.isSome_nodeIn_iff (sound : repository.Sound) {reference : Reference} :
    (reference.nodeIn files repository).isSome ↔ reference.ResolvesIn files repository := by
  simp only [ResolvesIn, Reference.resolve_eq_iff]
  cases followed : reference.followIn repository (Repository.resolve files) with
  | mk answer after =>
    cases answer with
    | error error => simp [nodeIn_of_error followed]
    | ok found => simp [(finds_of_followIn sound followed).node]

/-- A union resolves exactly if each of its members does by itself. -/
theorem Union.succeeds_iff (sound : repository.Sound) {union : Union} :
    (∃ founds live, union.resolve files (some repository) = (.ok founds, live)) ↔
      ∀ member ∈ union.members, member.ResolvesIn files repository := by
  simp only [Union.resolve_eq_iff, ← Reference.isSome_nodeIn_iff sound,
    ← followEach_succeeds_iff sound]
  constructor
  · rintro ⟨founds, live, after, -, followed⟩
    exact ⟨founds, after, followed⟩
  · rintro ⟨founds, after, followed⟩
    exact ⟨founds, some after, after, rfl, followed⟩

/-- The nodes that a union gives are those that its members would have given at the start. -/
theorem Union.nodes_of_resolve (sound : repository.Sound) {union : Union} {founds : List Found}
    {live : Option Repository}
    (resolved : union.resolve files (some repository) = (.ok founds, live)) :
    union.members.map (Reference.nodeIn files repository) =
      (founds.map fun found => found.node).map some := by
  obtain ⟨after, -, followed⟩ := Union.resolve_eq_iff.mp resolved
  rw [List.map_map]
  exact (followEach_finds sound followed).2.2

end

/-- What resolving a union comes to, in every repository that was ever new and while the files stay
as they are. It succeeds exactly if every member could be resolved by itself in the repository as it
was. Then there is one definition for each member, in their order: the very instance that resolving
the member again gives, which changes nothing any more. Members in another order, or any choice of
them, give the same nodes in that order. Otherwise there is a first member that cannot be resolved.
Those before it can, and it fails in the repository that they leave, with the error and the
repository that the union ends with. What stands behind it makes no difference.

Proof: a member that is resolved leaves a repository that supplies the same documents. So the others
give there what they would have given at the start, and by induction on the members all of them do. -/
theorem unions_resolve_like_members (handle : Handle) (config : RepositoryConfig)
    (history : List Step) (files : FileTree) (union : Union) :
    let before := run history (.new handle config)
    ((∃ founds live, union.resolve files (some before) = (.ok founds, live)) ↔
      ∀ member ∈ union.members, member.ResolvesIn files before) ∧
    (∀ founds live, union.resolve files (some before) = (.ok founds, live) →
      List.Forall₂ (fun member found => member.resolve files live = (.ok found, live))
        union.members founds ∧
      ∀ order : List Nat, ∃ others last,
        { union with members := rearranged order union.members }.resolve files (some before) =
          (.ok others, last) ∧
        others.map (fun found => found.node) =
          rearranged order (founds.map fun found => found.node)) ∧
    (∀ error live, union.resolve files (some before) = (.error error, live) →
      ∃ earlier failing later founds between, union.members = earlier ++ failing :: later ∧
        (∀ member ∈ earlier, member.ResolvesIn files before) ∧
        ¬ failing.ResolvesIn files before ∧
        { union with members := earlier }.resolve files (some before) = (.ok founds, between) ∧
        failing.resolve files between = (.error error, live) ∧
        ∀ others, { union with members := earlier ++ failing :: others }.resolve files
          (some before) = (.error error, live)) := by
  intro before
  have sound : before.Sound := sound_run handle config history
  refine ⟨Union.succeeds_iff sound, fun founds live resolved => ⟨?_, fun order => ?_⟩,
    fun error live resolved => ?_⟩
  · obtain ⟨after, rfl, followed⟩ := Union.resolve_eq_iff.mp resolved
    refine ((followEach_finds sound followed).2.1 after .refl).imp fun member found again => ?_
    exact Reference.resolve_eq_iff.mpr ⟨after, rfl, again⟩
  · -- The rearranged members are resolved in a run of their own, which may load in another order;
    -- both runs give what the repository supplied before them.
    have each := (Union.succeeds_iff sound).mp ⟨founds, live, resolved⟩
    obtain ⟨others, last, resolvedOthers⟩ : ∃ others last,
        { union with members := rearranged order union.members }.resolve files (some before) =
          (.ok others, last) :=
      (Union.succeeds_iff sound).mpr fun member listed => each member (mem_of_mem_rearranged listed)
    refine ⟨others, last, resolvedOthers, ?_⟩
    have nodes := Union.nodes_of_resolve sound resolved
    have nodesOthers := Union.nodes_of_resolve sound resolvedOthers
    rw [rearranged_map, nodes, ← rearranged_map] at nodesOthers
    exact (List.map_inj_right fun _ _ => Option.some.inj).mp nodesOthers.symm
  · obtain ⟨after, rfl, followed⟩ := Union.resolve_eq_iff.mp resolved
    obtain ⟨earlier, failing, later, founds, between, members, succeeded, failed⟩ :=
      followEach_fails followed
    obtain ⟨supplies, -, -⟩ := followEach_finds sound succeeded
    refine ⟨earlier, failing, later, founds, some between, members, ?_, ?_, ?_, ?_, fun others => ?_⟩
    · intro member listed
      rw [← Reference.isSome_nodeIn_iff sound]
      exact (followEach_succeeds_iff sound).mp ⟨founds, between, succeeded⟩ member listed
    · rw [← Reference.isSome_nodeIn_iff sound, ← Reference.nodeIn_of_supplies supplies,
        Reference.nodeIn_of_error failed]
      exact Bool.false_ne_true
    · exact Union.resolve_eq_iff.mpr ⟨between, rfl, succeeded⟩
    · exact Reference.resolve_eq_iff.mpr ⟨after, rfl, failed⟩
    · exact Union.resolve_eq_iff.mpr ⟨after, rfl, followEach_stops succeeded failed others⟩

end LexiconSchema
