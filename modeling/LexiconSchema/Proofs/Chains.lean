import Mathlib.Data.List.Nodup
import LexiconSchema.Proofs.Runs
import LexiconSchema.Proofs.WellFormedIdentifiers

/-!
# How chains of references end

A chain starts with a reference. As long as an identifier resolves to another reference, that
one's identifier is next, and it is resolved in the repository that the links before left. The
identifiers are compared by what is written for them; since they were read from texts, this
tells them apart.

A chain is followed with two guards, one against identifiers that come up again and one against
too many of them. Together with the length at which each of them acts, all ways in which a chain
ends are described here, each by the links before it, and they are shown to be all. That few
identifiers are looked up is said of a second run, which writes each of them down.

Main statement: `chains_end_in_one_way`.
-/

namespace LexiconSchema

/-! Identifiers are told apart by what is written for them. -/

/-- Identifiers that were read from texts are one if they are written alike. -/
theorem Identifier.WellFormed.eq_of_toString {left right : Identifier}
    (formedLeft : left.WellFormed) (formedRight : right.WellFormed)
    (same : left.toString = right.toString) : left = right := by
  have reread := formedLeft.parse_toString
  rw [same, formedRight.parse_toString] at reread
  exact (Except.ok.inj reread).symm

/-- So an identifier is among some exactly if what is written for it is. -/
theorem Identifier.contains_toString_iff {ids : List Identifier} {id : Identifier}
    (formed : ∀ other ∈ ids, other.WellFormed) (own : id.WellFormed) :
    (ids.map toString).contains id.toString = true ↔ id ∈ ids := by
  rw [List.contains_iff_mem, List.mem_map]
  constructor
  · rintro ⟨other, member, same⟩
    rw [own.eq_of_toString (formed other member) same.symm]
    exact member
  · intro member
    exact ⟨id, member, rfl⟩

/-- What a reference stands for is a well-formed identifier. -/
theorem Reference.wellFormed_of_targetIdentifier {reference : Reference} {id : Identifier}
    (target : reference.targetIdentifier = .ok id) : id.WellFormed := by
  rw [Reference.targetIdentifier] at target
  cases expanded : reference.identifier with
  | error error =>
    rw [expanded] at target
    cases target
  | ok other =>
    rw [expanded] at target
    obtain rfl := Except.ok.inj target
    obtain ⟨text, parsed⟩ := parsed_of_expand expanded
    exact (Identifier.parse_eq_ok_iff.mp parsed).1

/-! Chains. -/

/-- The links of a chain so far, all of which resolve to references, each in the repository that
those before it left; what the last of these references stands for, which is next; and the
repository that is left. The chain starts with a reference of its own. -/
inductive Chain (files : FileTree) (reference : Reference) (repository : Repository) :
    List Identifier → Except ResolutionError Identifier → Repository → Prop
  | start : Chain files reference repository [] reference.targetIdentifier repository
  | link {links : List Identifier} {last : Identifier} {between after : Repository} {found : Found}
      {inner : Reference} (before : Chain files reference repository links (.ok last) between)
      (resolved : between.resolve files last = (.ok found, after))
      (refers : found.node.content.reference? = some inner) :
      Chain files reference repository (links ++ [last]) inner.targetIdentifier after

/-- Errors that are about a chain as a whole. -/
def ResolutionError.isOfChain : ResolutionError → Bool
  | .circular _ | .tooDeep _ _ => true
  | _ => false

section
variable {files : FileTree} {reference : Reference} {repository between after : Repository}
  {links : List Identifier} {last : Identifier} {next : Except ResolutionError Identifier}
  {error : ResolutionError} {limit : Nat}

/-- A reference that stands for nothing says nothing about chains. -/
theorem Reference.isOfChain_of_targetIdentifier
    (target : reference.targetIdentifier = .error error) : error.isOfChain = false := by
  rw [Reference.targetIdentifier] at target
  cases expanded : reference.identifier with
  | error fault =>
    rw [expanded] at target
    obtain rfl := Except.error.inj target
    rfl
  | ok id =>
    rw [expanded] at target
    cases target

/-- An identifier that is not found says nothing about chains either. -/
theorem Repository.isOfChain_of_resolve
    (resolved : repository.resolve files last = (.error error, after)) :
    error.isOfChain = false := by
  have resolves := resolve_cases files repository last
  rw [resolved] at resolves
  cases resolves <;> rfl

/-- What an identifier resolves to is the definition that the found document has under the found
name. -/
theorem Repository.definition?_of_resolve {found : Found}
    (resolved : repository.resolve files last = (.ok found, after)) :
    found.kept.document.definition? found.name = some found.node := by
  have resolves := resolve_cases files repository last
  rw [resolved] at resolves
  cases resolves with
  | found loaded held => exact held

namespace Chain

/-- All links and what is next were read from texts. -/
theorem wellFormed (chain : Chain files reference repository links next between) :
    (∀ id ∈ links, id.WellFormed) ∧ ∀ id, next = .ok id → id.WellFormed := by
  induction chain with
  | start =>
    refine ⟨List.forall_mem_nil _, ?_⟩
    intro id target
    exact Reference.wellFormed_of_targetIdentifier target
  | link before resolved refers inductionHypothesis =>
    obtain ⟨formed, own⟩ := inductionHypothesis
    refine ⟨?_, ?_⟩
    · intro id member
      rcases List.mem_append.mp member with earlier | same
      · exact formed id earlier
      · obtain rfl := List.mem_singleton.mp same
        exact own id rfl
    · intro id target
      exact Reference.wellFormed_of_targetIdentifier target

/-- The loop compares written identifiers. On a chain these are as good as the identifiers. -/
theorem contains_iff (chain : Chain files reference repository links (.ok last) between) :
    (links.map Identifier.toString).contains last.toString = true ↔ last ∈ links := by
  obtain ⟨formed, own⟩ := chain.wellFormed
  exact Identifier.contains_toString_iff formed (own last rfl)

/-- A chain that ends in an error ends in one of a single hop. -/
theorem isOfChain (chain : Chain files reference repository links (.error error) between) :
    error.isOfChain = false := by
  generalize target : (Except.error error : Except ResolutionError Identifier) = next at chain
  cases chain with
  | start => exact Reference.isOfChain_of_targetIdentifier target.symm
  | link before resolved refers => exact Reference.isOfChain_of_targetIdentifier target.symm

end Chain

/-! Following a chain onward from any of its links. -/

/-- What following gives when some links were followed already. -/
def Repository.followOn (files : FileTree) (limit : Nat) (links : List Identifier)
    (next : Except ResolutionError Identifier) (repository : Repository) : Answer Found :=
  match next with
  | .error error => (.error error, repository)
  | .ok id => repository.follow files limit links id

/-- From a node that is a reference the loop goes on with that reference. -/
theorem Repository.onward_eq {found : Found} {inner : Reference}
    (refers : found.node.content.reference? = some inner) :
    onward files limit links found repository =
      followOn files limit links inner.targetIdentifier repository := by
  rw [onward, refers, Reference.targetIdentifier]
  dsimp only
  cases inner.identifier <;> rfl

namespace Chain

/-- A link more is no repetition exactly if it is new. -/
theorem nodup_concat_iff : (links ++ [last]).Nodup ↔ links.Nodup ∧ last ∉ links := by
  rw [← List.concat_eq_append, List.nodup_concat, and_comm]

/-- A link that is new and within the limit is resolved. -/
theorem follow_eq_resolve (chain : Chain files reference repository links (.ok last) between)
    (new : last ∉ links) (short : links.length < limit) :
    between.follow files limit links last =
      Repository.andThen (between.resolve files last) (fun error => error)
        (Repository.onward files limit (links ++ [last])) := by
  rw [Repository.follow_eq, if_neg (mt chain.contains_iff.mp new), if_neg (Nat.not_le.mpr short)]

/-- Following from the start gets to every link that is reached without a repetition and within
the limit.

Proof: by induction on the chain. The link before was new and within the limit, so it was
resolved, and it resolved to the reference whose identifier is next. -/
theorem followOn_eq (chain : Chain files reference repository links next between)
    (distinct : links.Nodup) (short : links.length ≤ limit) :
    repository.followOn files limit [] reference.targetIdentifier =
      between.followOn files limit links next := by
  induction chain with
  | start => rfl
  | @link links last between after found inner before resolved refers inductionHypothesis =>
    obtain ⟨earlier, new⟩ := nodup_concat_iff.mp distinct
    have shorter : links.length < limit := by
      rw [List.length_append] at short
      exact short
    rw [inductionHypothesis earlier (Nat.le_of_lt shorter)]
    change between.follow files limit links last = _
    rw [before.follow_eq_resolve new shorter, resolved]
    exact Repository.onward_eq refers

end Chain

/-- The ways in which following a chain ends, with the answer and the repository that is left:
at a definition that is no reference, at an identifier that was there before, at one more than
the limit allows, or at the first that cannot be read or resolved. -/
inductive Chain.Ends (files : FileTree) (reference : Reference) (repository : Repository)
    (limit : Nat) : Answer Found → Prop
  | found {links : List Identifier} {last : Identifier} {between after : Repository}
      {found : Found} (chain : Chain files reference repository links (.ok last) between)
      (short : links.length < limit) (distinct : (links ++ [last]).Nodup)
      (resolved : between.resolve files last = (.ok found, after))
      (plain : found.node.content.reference? = none) :
      Ends files reference repository limit (.ok found, after)
  | circular {links : List Identifier} {last : Identifier} {between : Repository}
      (chain : Chain files reference repository links (.ok last) between)
      (short : links.length ≤ limit) (distinct : links.Nodup) (again : last ∈ links) :
      Ends files reference repository limit (.error (.circular (links ++ [last])), between)
  | tooDeep {links : List Identifier} {last : Identifier} {between : Repository}
      (chain : Chain files reference repository links (.ok last) between)
      (long : links.length = limit) (distinct : (links ++ [last]).Nodup) :
      Ends files reference repository limit (.error (.tooDeep limit links), between)
  | unread {links : List Identifier} {between : Repository} {error : ResolutionError}
      (chain : Chain files reference repository links (.error error) between)
      (short : links.length ≤ limit) (distinct : links.Nodup) :
      Ends files reference repository limit (.error error, between)
  | unresolved {links : List Identifier} {last : Identifier} {between after : Repository}
      {error : ResolutionError}
      (chain : Chain files reference repository links (.ok last) between)
      (short : links.length < limit) (distinct : (links ++ [last]).Nodup)
      (resolved : between.resolve files last = (.error error, after)) :
      Ends files reference repository limit (.error error, after)

namespace Chain

/-- Following on from any link without a repetition and within the limit ends in one of the
ways. The recursion is that of following: every link comes nearer to the limit. -/
theorem followOn_ends {links : List Identifier} {next : Except ResolutionError Identifier}
    {between : Repository} (chain : Chain files reference repository links next between)
    (distinct : links.Nodup) (short : links.length ≤ limit) :
    Ends files reference repository limit (between.followOn files limit links next) := by
  cases next with
  | error error => exact .unread chain short distinct
  | ok last =>
    change Ends files reference repository limit (between.follow files limit links last)
    by_cases again : last ∈ links
    · rw [Repository.follow_eq, if_pos (chain.contains_iff.mpr again)]
      exact .circular chain short distinct again
    · have extended := nodup_concat_iff.mpr ⟨distinct, again⟩
      by_cases long : limit ≤ links.length
      · rw [Repository.follow_eq, if_neg (mt chain.contains_iff.mp again), if_pos long]
        exact .tooDeep chain (Nat.le_antisymm short long) extended
      · have within := Nat.lt_of_not_le long
        rw [chain.follow_eq_resolve again within]
        cases resolved : between.resolve files last with
        | mk answer after =>
          cases answer with
          | error error => exact .unresolved chain within extended resolved
          | ok found =>
            change Ends files reference repository limit
              (Repository.onward files limit _ found after)
            cases refers : found.node.content.reference? with
            | none =>
              rw [Repository.onward, refers]
              exact .found chain within extended resolved refers
            | some inner =>
              rw [Repository.onward_eq refers]
              have shorter : (links ++ [last]).length ≤ limit := by
                rw [List.length_append]
                exact within
              exact followOn_ends (.link chain resolved refers) extended shorter
termination_by limit - links.length
decreasing_by simp only [List.length_append, List.length_singleton]; omega

/-- Whatever ends a chain is what following it from the start gives. -/
theorem Ends.followOn_eq {outcome : Answer Found}
    (ends : Ends files reference repository limit outcome) :
    repository.followOn files limit [] reference.targetIdentifier = outcome := by
  cases ends with
  | found chain short distinct resolved plain =>
    obtain ⟨earlier, new⟩ := nodup_concat_iff.mp distinct
    rw [chain.followOn_eq earlier (Nat.le_of_lt short)]
    change Repository.follow _ _ _ _ _ = _
    rw [chain.follow_eq_resolve new short, resolved]
    change Repository.onward files limit _ _ _ = _
    rw [Repository.onward, plain]
  | circular chain short distinct again =>
    rw [chain.followOn_eq distinct short]
    change Repository.follow _ _ _ _ _ = _
    rw [Repository.follow_eq, if_pos (chain.contains_iff.mpr again)]
  | tooDeep chain long distinct =>
    obtain ⟨earlier, new⟩ := nodup_concat_iff.mp distinct
    rw [chain.followOn_eq earlier (Nat.le_of_eq long)]
    change Repository.follow _ _ _ _ _ = _
    rw [Repository.follow_eq, if_neg (mt chain.contains_iff.mp new),
      if_pos (Nat.le_of_eq long.symm)]
  | unread chain short distinct =>
    rw [chain.followOn_eq distinct short]
    rfl
  | unresolved chain short distinct resolved =>
    obtain ⟨earlier, new⟩ := nodup_concat_iff.mp distinct
    rw [chain.followOn_eq earlier (Nat.le_of_lt short)]
    change Repository.follow _ _ _ _ _ = _
    rw [chain.follow_eq_resolve new short, resolved]
    rfl

/-! Which of the ways it was shows in the answer. -/

/-- A node is found exactly if the chain reaches it in fewer hops than the limit allows, no
identifier comes twice, and the node is no reference. -/
theorem ends_found_iff {found : Found} :
    Ends files reference repository limit (.ok found, after) ↔
      ∃ links last between, Chain files reference repository links (.ok last) between ∧
        links.length < limit ∧ (links ++ [last]).Nodup ∧
        between.resolve files last = (.ok found, after) ∧
        found.node.content.reference? = none := by
  constructor
  · intro way
    cases way with
    | found chain short distinct resolved plain =>
      exact ⟨_, _, _, chain, short, distinct, resolved, plain⟩
  · rintro ⟨links, last, between, chain, short, distinct, resolved, plain⟩
    exact .found chain short distinct resolved plain

/-- A circle is reported exactly if the chain comes to an identifier that it had before, and the
circle shown is the chain up to there. -/
theorem ends_circular_iff {circle : List Identifier} :
    Ends files reference repository limit (.error (.circular circle), after) ↔
      ∃ links last, Chain files reference repository links (.ok last) after ∧
        links.length ≤ limit ∧ links.Nodup ∧ last ∈ links ∧ circle = links ++ [last] := by
  constructor
  · intro way
    cases way with
    | circular chain short distinct again => exact ⟨_, _, chain, short, distinct, again, rfl⟩
    | unread chain short distinct => exact Bool.noConfusion chain.isOfChain
    | unresolved chain short distinct resolved =>
      exact Bool.noConfusion (Repository.isOfChain_of_resolve resolved)
  · rintro ⟨links, last, chain, short, distinct, again, rfl⟩
    exact .circular chain short distinct again

/-- Too great a depth is reported exactly if the chain has used up the limit with identifiers that
are all different, the next one included. -/
theorem ends_tooDeep_iff {max : Nat} :
    Ends files reference repository limit (.error (.tooDeep max links), after) ↔
      max = limit ∧ ∃ last, Chain files reference repository links (.ok last) after ∧
        links.length = limit ∧ (links ++ [last]).Nodup := by
  constructor
  · intro way
    cases way with
    | tooDeep chain long distinct => exact ⟨rfl, _, chain, long, distinct⟩
    | unread chain short distinct => exact Bool.noConfusion chain.isOfChain
    | unresolved chain short distinct resolved =>
      exact Bool.noConfusion (Repository.isOfChain_of_resolve resolved)
  · rintro ⟨rfl, last, chain, long, distinct⟩
    exact .tooDeep chain long distinct

/-- Any other error is reported exactly if a hop of the chain fails with it: its text cannot be
read, or what it stands for is not found. -/
theorem ends_other_iff :
    Ends files reference repository limit (.error error, after) ∧ error.isOfChain = false ↔
      (∃ links, Chain files reference repository links (.error error) after ∧
        links.length ≤ limit ∧ links.Nodup) ∨
      ∃ links last between, Chain files reference repository links (.ok last) between ∧
        links.length < limit ∧ (links ++ [last]).Nodup ∧
        between.resolve files last = (.error error, after) := by
  constructor
  · rintro ⟨way, plain⟩
    cases way with
    | circular chain short distinct again => cases plain
    | tooDeep chain long distinct => cases plain
    | unread chain short distinct => exact .inl ⟨_, chain, short, distinct⟩
    | unresolved chain short distinct resolved =>
      exact .inr ⟨_, _, _, chain, short, distinct, resolved⟩
  · rintro (⟨links, chain, short, distinct⟩ | ⟨links, last, between, chain, short, distinct,
      resolved⟩)
    · exact ⟨.unread chain short distinct, chain.isOfChain⟩
    · exact ⟨.unresolved chain short distinct resolved, Repository.isOfChain_of_resolve resolved⟩

end Chain

/-! What is looked up on the way. -/

namespace Repository

/-- Follows a chain by any way to look identifiers up, in a state that is handed along. -/
def followBy {σ : Type} (look : σ → Identifier → Except ResolutionError Found × σ) (limit : Nat)
    (chain : List Identifier) (next : Identifier) (state : σ) : Except ResolutionError Found × σ :=
  if (chain.map Identifier.toString).contains next.toString then
    (.error (.circular (chain ++ [next])), state)
  else if limit ≤ chain.length then (.error (.tooDeep limit chain), state)
  else
    match look state next with
    | (.error error, state) => (.error error, state)
    | (.ok found, state) =>
      match found.node.content.reference? with
      | none => (.ok found, state)
      | some inner =>
        match inner.identifier with
        | .error error => (.error (.badReference error), state)
        | .ok id => followBy look limit (chain ++ [next]) id state
termination_by limit - chain.length
decreasing_by simp only [List.length_append, List.length_singleton]; omega

/-- A way to look identifiers up that also writes down what it was asked for. -/
def logged {σ : Type} (look : σ → Identifier → Except ResolutionError Found × σ)
    (state : σ × List Identifier) (id : Identifier) :
    Except ResolutionError Found × σ × List Identifier :=
  ((look state.1 id).1, (look state.1 id).2, state.2 ++ [id])

/-- Following looks identifiers up by resolving them. -/
theorem follow_eq_followBy (files : FileTree) (limit : Nat) (chain : List Identifier)
    (next : Identifier) (repository : Repository) :
    repository.follow files limit chain next =
      followBy (fun repository id => repository.resolve files id) limit chain next repository := by
  rw [follow, followBy]
  split
  · rfl
  · split
    · rfl
    · cases repository.resolve files next with
      | mk answer after =>
        cases answer with
        | error error => rfl
        | ok found =>
          dsimp only
          cases found.node.content.reference? with
          | none => rfl
          | some inner =>
            dsimp only
            cases inner.identifier with
            | error error => rfl
            | ok id => exact follow_eq_followBy files limit (chain ++ [next]) id after
termination_by limit - chain.length
decreasing_by simp only [List.length_append, List.length_singleton]; omega

/-- Writing down what is looked up changes nothing else, and with the links before there are no
more entries than the limit allows. -/
theorem followBy_logged {σ : Type} (look : σ → Identifier → Except ResolutionError Found × σ)
    (limit : Nat) (chain : List Identifier) (next : Identifier) (state : σ)
    (log : List Identifier) :
    ∃ calls : List Identifier, calls.length ≤ limit - chain.length ∧
      followBy (logged look) limit chain next (state, log) =
        ((followBy look limit chain next state).1, (followBy look limit chain next state).2,
          log ++ calls) := by
  rw [followBy, followBy]
  by_cases circular : (chain.map Identifier.toString).contains next.toString
  · rw [if_pos circular, if_pos circular]
    exact ⟨[], Nat.zero_le _, by rw [List.append_nil]⟩
  · rw [if_neg circular, if_neg circular]
    by_cases deep : limit ≤ chain.length
    · rw [if_pos deep, if_pos deep]
      exact ⟨[], Nat.zero_le _, by rw [List.append_nil]⟩
    · rw [if_neg deep, if_neg deep]
      have one : [next].length ≤ limit - chain.length := by
        rw [List.length_singleton]
        omega
      rw [logged]
      dsimp only
      cases look state next with
      | mk answer after =>
        cases answer with
        | error error => exact ⟨[next], one, rfl⟩
        | ok found =>
          dsimp only
          cases found.node.content.reference? with
          | none => exact ⟨[next], one, rfl⟩
          | some inner =>
            dsimp only
            cases inner.identifier with
            | error error => exact ⟨[next], one, rfl⟩
            | ok id =>
              obtain ⟨calls, few, same⟩ :=
                followBy_logged look limit (chain ++ [next]) id after (log ++ [next])
              refine ⟨next :: calls, ?_, ?_⟩
              · rw [List.length_append, List.length_singleton] at few
                rw [List.length_cons]
                omega
              · dsimp only
                rw [same, List.append_assoc]
                rfl
termination_by limit - chain.length
decreasing_by simp only [List.length_append, List.length_singleton]; omega

/-- Follows the chain of a reference and writes down what is looked up. -/
def followLogged (files : FileTree) (limit : Nat) (reference : Reference)
    (repository : Repository) : Except ResolutionError Found × Repository × List Identifier :=
  match reference.targetIdentifier with
  | .error error => (.error error, repository, [])
  | .ok id =>
    followBy (logged fun repository id => repository.resolve files id) limit [] id (repository, [])

/-- What is looked up can be written down on the way without changing the result, and it is no more
than the limit allows. -/
theorem followLogged_eq (files : FileTree) (limit : Nat) (reference : Reference)
    (repository : Repository) :
    ∃ calls : List Identifier, calls.length ≤ limit ∧
      followLogged files limit reference repository =
        ((repository.followOn files limit [] reference.targetIdentifier).1,
          (repository.followOn files limit [] reference.targetIdentifier).2, calls) := by
  rw [followLogged]
  cases reference.targetIdentifier with
  | error error => exact ⟨[], Nat.zero_le limit, rfl⟩
  | ok id =>
    dsimp only [followOn]
    rw [follow_eq_followBy]
    exact followBy_logged _ limit [] id repository []

end Repository

/-- In the repository that a reference is attached to, its chain ends in the ways described and
in no others. -/
theorem Reference.resolveTarget_eq_iff (attached : reference.repository = some repository.handle)
    {answer : Except ResolutionError Found} :
    reference.resolveTarget files (some repository) = (answer, some after) ↔
      Chain.Ends files reference repository repository.config.maxDepth (answer, after) := by
  have followed : reference.resolveTarget files (some repository) =
      (repository.followOn files repository.config.maxDepth [] reference.targetIdentifier).map
        id some := by
    rw [Reference.resolveTarget, inRepository_some, Reference.followIn, if_pos attached]
    rfl
  rw [followed]
  constructor
  · intro same
    have ends : Chain.Ends files reference repository repository.config.maxDepth
        (repository.followOn files repository.config.maxDepth [] reference.targetIdentifier) :=
      Chain.followOn_ends .start List.nodup_nil (Nat.zero_le _)
    generalize repository.followOn files _ [] reference.targetIdentifier = outcome at same ends
    obtain ⟨answerThere, afterThere⟩ := outcome
    obtain ⟨rfl, left⟩ := Prod.mk.inj same
    obtain rfl := Option.some.inj left
    exact ends
  · intro ends
    rw [ends.followOn_eq]
    rfl

end

/-- Chains end in one way. Let a reference be attached to the repository, whatever that keeps,
and let its chain be followed there. No more identifiers are looked up than the limit allows.
The chain ends at a definition exactly if, within the limit and without a repetition, its links
lead there; the definition is the one that its document holds. It is circular exactly if, within
the limit, the identifier behind distinct links is one of them, and it is too deep exactly if
as many links as the limit allows are distinct from each other and from the identifier behind
them. Any other error is that of the first identifier that cannot be read or resolved.

Proof: following goes from each link to the next as long as both guards let it, so it reaches
the links described; and at every link one of the ways is open. -/
theorem chains_end_in_one_way (files : FileTree) {repository : Repository} {reference : Reference}
    (attached : reference.repository = some repository.handle) :
    let limit := repository.config.maxDepth
    let outcome := reference.resolveTarget files (some repository)
    (∃ answer after calls, outcome = (answer, some after) ∧ calls.length ≤ limit ∧
      repository.followLogged files limit reference = (answer, after, calls)) ∧
    (∀ found after, outcome = (.ok found, some after) ↔
      ∃ links last between, Chain files reference repository links (.ok last) between ∧
        links.length < limit ∧ (links ++ [last]).Nodup ∧
        between.resolve files last = (.ok found, after) ∧
        found.node.content.reference? = none) ∧
    (∀ found after, outcome = (.ok found, some after) →
      found.kept.document.definition? found.name = some found.node) ∧
    (∀ chain after, outcome = (.error (.circular chain), some after) ↔
      ∃ links last, Chain files reference repository links (.ok last) after ∧
        links.length ≤ limit ∧ links.Nodup ∧ last ∈ links ∧ chain = links ++ [last]) ∧
    (∀ max chain after, outcome = (.error (.tooDeep max chain), some after) ↔
      max = limit ∧ ∃ last, Chain files reference repository chain (.ok last) after ∧
        chain.length = limit ∧ (chain ++ [last]).Nodup) ∧
    (∀ error after, outcome = (.error error, some after) ∧ error.isOfChain = false ↔
      (∃ links, Chain files reference repository links (.error error) after ∧
        links.length ≤ limit ∧ links.Nodup) ∨
      ∃ links last between, Chain files reference repository links (.ok last) between ∧
        links.length < limit ∧ (links ++ [last]).Nodup ∧
        between.resolve files last = (.error error, after)) := by
  intro limit outcome
  have ends : ∀ {answer after}, outcome = (answer, some after) ↔
      Chain.Ends files reference repository limit (answer, after) :=
    Reference.resolveTarget_eq_iff attached
  refine ⟨?_, ?_, ?_, ?_, ?_, ?_⟩
  · obtain ⟨calls, few, logged⟩ := Repository.followLogged_eq files limit reference repository
    refine ⟨_, _, calls, ends.mpr ?_, few, logged⟩
    exact Chain.followOn_ends .start List.nodup_nil (Nat.zero_le limit)
  · intro found after
    exact ends.trans Chain.ends_found_iff
  · intro found after same
    obtain ⟨links, last, between, chain, short, distinct, resolved, plain⟩ :=
      Chain.ends_found_iff.mp (ends.mp same)
    exact Repository.definition?_of_resolve resolved
  · intro chain after
    exact ends.trans Chain.ends_circular_iff
  · intro max chain after
    exact ends.trans Chain.ends_tooDeep_iff
  · intro error after
    rw [ends]
    exact Chain.ends_other_iff

/-- An identifier of the document whose two definitions refer to each other. -/
def loopId (definition : String) : Identifier := ⟨["com", "example"], "loop", definition⟩

/-- A reference of that document in the first repository. -/
def loopReference (target : String) : Reference := ⟨target, some (loopId "main"), some ⟨0⟩⟩

/-- The document. -/
def loopDocument : Document :=
  ((Document.new (loopId "main")).withDefinition "main"
    ⟨none, .element (.ref (loopReference "#middle"))⟩).withDefinition "middle"
    ⟨none, .element (.ref (loopReference "#main"))⟩

/-- A repository that keeps it and follows two references in a row. -/
def loopRepository : Repository := ((Repository.new ⟨0⟩ { maxDepth := 2 }).store loopDocument).2

/-- The circle closes behind as many links as are allowed, and it is reported as a circle. -/
theorem chains_end_in_one_way_loop :
    (loopReference "com.example.loop").repository = some loopRepository.handle ∧
    (loopReference "com.example.loop").resolveTarget .empty (some loopRepository) =
      (.error (.circular [loopId "main", loopId "middle", loopId "main"]), some loopRepository) ∧
    chainText [loopId "main", loopId "middle", loopId "main"] =
      "com.example.loop -> com.example.loop#middle -> com.example.loop" := by
  have attached : (loopReference "com.example.loop").repository = some loopRepository.handle := rfl
  obtain ⟨-, -, -, circular, -, -⟩ := chains_end_in_one_way .empty attached
  refine ⟨attached, (circular _ _).mpr ?_, by decide +kernel⟩
  have given (definition : String) :
      loopRepository.Gives ⟨loopDocument, 0⟩ (loopId definition) :=
    Repository.gives_of_get? rfl
  have first : Chain .empty (loopReference "com.example.loop") loopRepository []
      (.ok (loopId "main")) loopRepository := .start
  have second : Chain .empty (loopReference "com.example.loop") loopRepository [loopId "main"]
      (.ok (loopId "middle")) loopRepository :=
    .link first ((given "main").resolve .empty) rfl
  have third : Chain .empty (loopReference "com.example.loop") loopRepository
      [loopId "main", loopId "middle"] (.ok (loopId "main")) loopRepository :=
    .link second ((given "middle").resolve .empty) rfl
  exact ⟨_, _, third, Nat.le_refl 2, by decide, by decide, rfl⟩

end LexiconSchema
