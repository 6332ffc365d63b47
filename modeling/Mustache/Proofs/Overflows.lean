import Mathlib.Data.Finset.Card
import Mathlib.Data.Finset.Dedup
import Mustache.Proofs.PoolCounts

/-!
# What overflows first

Code is generated exactly if every block of it, each on its own, is asked for no more distinct text
constants, no more distinct names and no more bodies than a word of 16 bits can tell apart. If not,
the first request that is one too many decides which pool is reported.
-/

namespace Mustache

set_option autoImplicit false

theorem Pool.size_internAll_empty (texts : List String) :
    (Pool.empty.internAll texts).items.size = texts.toFinset.card := by
  have faithful := Pool.faithful_internAll Pool.faithful_empty texts
  have same : (Pool.empty.internAll texts).items.toList.toFinset = texts.toFinset := by
    ext text
    rw [List.mem_toFinset, List.mem_toFinset, Array.mem_toList_iff,
      Pool.mem_internAll Pool.faithful_empty]
    simp [Pool.empty]
  rw [← same, List.toFinset_card_of_nodup (Pool.nodup_items faithful), Array.length_toList]

namespace Request

/-- The requests of one block can be told apart by words of 16 bits. -/
structure Indexed (requests : List Request) : Prop where
  constants : (constants requests).toFinset.card ≤ 65536
  names : (names requests).toFinset.card ≤ 65536
  bodies : (bodies requests).length ≤ 65536

/-- The requests of one block of the code: of the whole, or of a body at any depth. -/
inductive IsBlock : List Request → List Request → Prop where
  | whole (requests : List Request) : IsBlock requests requests
  | inner {requests block : List Request} {body : List Node} (member : body ∈ bodies requests)
      (inside : IsBlock (Node.requestsAll body) block) : IsBlock requests block

def Fits (requests : List Request) : Prop := ∀ block, IsBlock requests block → Indexed block

/-- The first request that does not fit is one too many in this pool, or it is a body in which the
first that does not fit is one too many in this pool. -/
inductive Overflows : List Request → PoolKind → Prop where
  | constants {before : List Request} {text : String} (after : List Request) (fits : Fits before)
      (burst : 65536 < (constants (before ++ [.constant text])).toFinset.card) :
      Overflows (before ++ .constant text :: after) .textConstants
  | names {before : List Request} {segment : String} (after : List Request) (fits : Fits before)
      (burst : 65536 < (names (before ++ [.name segment])).toFinset.card) :
      Overflows (before ++ .name segment :: after) .names
  | inner {before : List Request} {body : List Node} {pool : PoolKind} (after : List Request)
      (fits : Fits before) (overflows : Overflows (Node.requestsAll body) pool) :
      Overflows (before ++ .body body :: after) pool
  | bodies {before : List Request} {body : List Node} (after : List Request) (fits : Fits before)
      (inside : Fits (Node.requestsAll body))
      (burst : 65536 < (bodies (before ++ [.body body])).length) :
      Overflows (before ++ .body body :: after) .sectionBodies

theorem fits_iff {requests : List Request} :
    Fits requests ↔ Indexed requests ∧ ∀ body ∈ bodies requests, Fits (Node.requestsAll body) := by
  constructor
  · intro fits
    exact ⟨fits requests (.whole requests), fun body member block inside =>
      fits block (.inner member inside)⟩
  · rintro ⟨indexed, inner⟩ block inside
    cases inside with
    | whole => exact indexed
    | inner member inside => exact inner _ member block inside

theorem Fits.left {first second : List Request} (fits : Fits (first ++ second)) : Fits first := by
  obtain ⟨⟨constants, names, bodies⟩, inner⟩ := fits_iff.1 fits
  rw [constants_append, List.toFinset_append] at constants
  rw [names_append, List.toFinset_append] at names
  rw [bodies_append] at bodies inner
  rw [List.length_append] at bodies
  refine fits_iff.2 ⟨⟨?_, ?_, by omega⟩, fun body member => inner body (List.mem_append_left _ member)⟩
  · exact Nat.le_trans (Finset.card_le_card Finset.subset_union_left) constants
  · exact Nat.le_trans (Finset.card_le_card Finset.subset_union_left) names

/-- Only one request can be the first that does not fit. -/
theorem first_unfit_unique {before other after rest : List Request} {request next : Request}
    (same : before ++ request :: after = other ++ next :: rest) (fits : Fits before)
    (unfit : ¬ Fits (before ++ [request])) (fitsOther : Fits other)
    (unfitOther : ¬ Fits (other ++ [next])) : before = other ∧ request = next := by
  rcases List.append_eq_append_iff.1 same with ⟨between, rfl, split⟩ | ⟨between, rfl, split⟩
  · cases between with
    | nil =>
      cases split
      exact ⟨(List.append_nil _).symm, rfl⟩
    | cons first between =>
      cases split
      rw [List.append_cons] at fitsOther
      exact absurd fitsOther.left unfit
  · cases between with
    | nil =>
      cases split
      exact ⟨List.append_nil _, rfl⟩
    | cons first between =>
      cases split
      rw [List.append_cons] at fits
      exact absurd fits.left unfitOther

theorem unfit_of_constants {requests : List Request}
    (burst : 65536 < (constants requests).toFinset.card) : ¬ Fits requests :=
  fun fits => Nat.not_le.2 burst (fits_iff.1 fits).1.constants

theorem unfit_of_names {requests : List Request}
    (burst : 65536 < (names requests).toFinset.card) : ¬ Fits requests :=
  fun fits => Nat.not_le.2 burst (fits_iff.1 fits).1.names

theorem unfit_of_bodies {requests : List Request} (burst : 65536 < (bodies requests).length) :
    ¬ Fits requests :=
  fun fits => Nat.not_le.2 burst (fits_iff.1 fits).1.bodies

theorem unfit_of_inner {before : List Request} {body : List Node}
    (unfit : ¬ Fits (Node.requestsAll body)) : ¬ Fits (before ++ [.body body]) := by
  intro fits
  have inside : body ∈ bodies (before ++ [.body body]) := by
    rw [bodies_append]
    exact List.mem_append_right _ (List.mem_cons_self ..)
  exact unfit ((fits_iff.1 fits).2 body inside)

/-- The pool in which a request is one too many. -/
def Bursts (pool : PoolKind) : Request → Prop
  | constant _ => pool = .textConstants
  | name _ => pool = .names
  | body nodes => Overflows (Node.requestsAll nodes) pool ∨
      Fits (Node.requestsAll nodes) ∧ pool = .sectionBodies

theorem Overflows.first {requests : List Request} {pool : PoolKind}
    (overflows : Overflows requests pool) :
    ∃ before request after, requests = before ++ request :: after ∧ Fits before ∧
      ¬ Fits (before ++ [request]) ∧ request.Bursts pool := by
  induction overflows with
  | constants after fits burst => exact ⟨_, _, after, rfl, fits, unfit_of_constants burst, rfl⟩
  | names after fits burst => exact ⟨_, _, after, rfl, fits, unfit_of_names burst, rfl⟩
  | inner after fits overflows ih =>
    refine ⟨_, _, after, rfl, fits, unfit_of_inner ?_, .inl overflows⟩
    obtain ⟨earlier, request, later, split, -, unfit, -⟩ := ih
    rw [split, List.append_cons]
    exact fun whole => unfit whole.left
  | bodies after fits inside burst =>
    exact ⟨_, _, after, rfl, fits, unfit_of_bodies burst, .inr ⟨inside, rfl⟩⟩

theorem Overflows.not_fits {requests : List Request} {pool : PoolKind}
    (overflows : Overflows requests pool) : ¬ Fits requests := by
  obtain ⟨before, request, after, rfl, -, unfit, -⟩ := overflows.first
  rw [List.append_cons]
  exact fun whole => unfit whole.left

/-- Only one pool overflows first. -/
theorem Overflows.unique {requests : List Request} {pool other : PoolKind}
    (overflows : Overflows requests pool) (others : Overflows requests other) : pool = other := by
  obtain ⟨front, next, rest, same, fitsFront, unfitNext, bursts⟩ := others.first
  induction overflows generalizing other front next rest with
  | constants after fits burst =>
    obtain ⟨-, rfl⟩ :=
      first_unfit_unique same fits (unfit_of_constants burst) fitsFront unfitNext
    exact bursts.symm
  | names after fits burst =>
    obtain ⟨-, rfl⟩ := first_unfit_unique same fits (unfit_of_names burst) fitsFront unfitNext
    exact bursts.symm
  | inner after fits overflows ih =>
    obtain ⟨-, rfl⟩ := first_unfit_unique same fits (unfit_of_inner overflows.not_fits) fitsFront
      unfitNext
    rcases bursts with deeper | ⟨inside, -⟩
    · obtain ⟨front, next, rest, same, fitsFront, unfitNext, bursts⟩ := deeper.first
      exact ih deeper front next rest same fitsFront unfitNext bursts
    · exact absurd inside overflows.not_fits
  | bodies after fits inside burst =>
    obtain ⟨-, rfl⟩ := first_unfit_unique same fits (unfit_of_bodies burst) fitsFront unfitNext
    rcases bursts with deeper | ⟨-, known⟩
    · exact absurd inside deeper.not_fits
    · exact known.symm

theorem not_overflows_sections {requests : List Request} : ¬ Overflows requests .sections := by
  generalize known : PoolKind.sections = pool
  intro overflows
  induction overflows with
  | inner _ _ _ ih => exact ih known
  | constants | names | bodies => cases known

end Request

namespace Node

mutual

theorem sizeOf_requested_lt (node : Node) {body : List Node}
    (inside : body ∈ Request.bodies node.requests) : sizeOf body < sizeOf node := by
  cases node with
  | sequence children =>
    rw [requests] at inside
    have smaller := sizeOf_requestedAll_lt children inside
    simp only [sequence.sizeOf_spec]
    omega
  | text content =>
    rw [requests] at inside
    split at inside <;> cases inside
  | escaped path position | unescaped path position =>
    rw [requests, Request.bodies_names] at inside
    cases inside
  | block path children raw pair position =>
    rw [requests, Request.bodies_append, Request.bodies_names] at inside
    obtain rfl : body = children := List.mem_singleton.1 inside
    simp only [block.sizeOf_spec]
    omega
  | inverted path children position =>
    rw [requests, Request.bodies_append, Request.bodies_names] at inside
    obtain rfl : body = children := List.mem_singleton.1 inside
    simp only [inverted.sizeOf_spec]
    omega
  | partialTag name indentation position =>
    rw [requests] at inside
    cases inside
  | comment content position | delimiters pair position =>
    rw [requests] at inside
    cases inside

theorem sizeOf_requestedAll_lt (nodes : List Node) {body : List Node}
    (inside : body ∈ Request.bodies (requestsAll nodes)) : sizeOf body < sizeOf nodes := by
  cases nodes with
  | nil =>
    rw [requestsAll] at inside
    cases inside
  | cons first rest =>
    rw [requestsAll, Request.bodies_append] at inside
    simp only [List.cons.sizeOf_spec]
    rcases List.mem_append.1 inside with inside | inside
    · have smaller := sizeOf_requested_lt first inside
      omega
    · have smaller := sizeOf_requestedAll_lt rest inside
      omega

end

/-- What passes from the bodies in a block to the block holds for all blocks. -/
theorem bodies_induction {holds : List Node → Prop}
    (step : ∀ nodes, (∀ body ∈ Request.bodies (requestsAll nodes), holds body) → holds nodes)
    (nodes : List Node) : holds nodes :=
  step nodes fun body inside =>
    have := sizeOf_requestedAll_lt nodes inside
    bodies_induction step body
termination_by sizeOf nodes

end Node

namespace Compiler

variable {name : String} {requests : List Request}

theorem admits_start : (Compiler.start name).Admits (.ofRequests requests) ↔
    Request.Indexed requests ∧
      ∀ body ∈ Request.bodies requests, ∃ inner, (Compiler.start "").nodes body = .ok inner := by
  have constants := Pool.size_internAll_empty (Request.constants requests)
  have names := Pool.size_internAll_empty (Request.names requests)
  have children : (Compiler.start name).builder.children.size + (Request.bodies requests).length =
      (Request.bodies requests).length := Nat.zero_add _
  constructor
  · rintro ⟨constantCount, nameCount, childCount, compiled⟩
    exact ⟨⟨constants ▸ constantCount, names ▸ nameCount, children ▸ childCount⟩, compiled⟩
  · rintro ⟨⟨constantCount, nameCount, childCount⟩, compiled⟩
    exact ⟨constants.symm ▸ constantCount, names.symm ▸ nameCount, children.symm ▸ childCount,
      compiled⟩

/-- Each body is compiled in a block of its own, so it fits or not whatever is around it. -/
theorem compiles_iff_fits (nodes : List Node) :
    (∃ inner, (Compiler.start "").nodes nodes = .ok inner) ↔
      Request.Fits (Node.requestsAll nodes) := by
  induction nodes using Node.bodies_induction with
  | step nodes ih =>
    rw [← (answers_nodes (roomy_start "") nodes).admits_iff, admits_start, Request.fits_iff]
    exact and_congr_right fun _ => forall₂_congr ih

theorem Answers.fits_iff {result : Except Overflow Compiler}
    (answers : (Compiler.start name).Answers requests result) :
    (∃ next, result = .ok next) ↔ Request.Fits requests := by
  rw [← answers.admits_iff, admits_start, Request.fits_iff]
  exact and_congr_right fun _ => forall₂_congr fun body _ => compiles_iff_fits body

/-- The first request that is refused is the first that does not fit. -/
theorem Answers.overflows {overflow : Overflow}
    (answers : (Compiler.start name).Answers requests (.error overflow))
    (inner : ∀ body ∈ Request.bodies requests, ∀ failure,
      (Compiler.start "").nodes body = .error failure →
        Request.Overflows (Node.requestsAll body) failure.pool) :
    Request.Overflows requests overflow.pool := by
  obtain ⟨before, request, after, middle, rfl, granted, refused⟩ := answers
  have passed : (Compiler.start name).Answers before (.ok middle) := granted
  have fits : Request.Fits before := passed.fits_iff.1 ⟨middle, rfl⟩
  generalize overflow.pool = pool at refused
  cases refused with
  | @constant text full =>
    refine .constants after fits ?_
    rw [Pool.intern_lt_iff granted.roomy.constants granted.roomy.constantCount, granted.constants,
      ← Pool.internAll_append] at full
    rw [Request.constants_append, ← Pool.size_internAll_empty]
    exact Nat.not_le.1 full
  | @name segment full =>
    refine .names after fits ?_
    rw [Pool.intern_lt_iff granted.roomy.names granted.roomy.nameCount, granted.names,
      ← Pool.internAll_append] at full
    rw [Request.names_append, ← Pool.size_internAll_empty]
    exact Nat.not_le.1 full
  | @inner body failure failed =>
    refine .inner after fits (inner body ?_ failure failed)
    rw [Request.bodies_append]
    exact List.mem_append_right _ (List.mem_cons_self ..)
  | @body body built compiled full =>
    refine .bodies after fits ((compiles_iff_fits body).1 ⟨built, compiled⟩) ?_
    obtain ⟨added, grown, matched⟩ := granted.children
    have count : middle.builder.children.size = (Request.bodies before).length := by
      rw [← Array.length_toList, grown, ← matched.length_eq]
      rfl
    rw [Request.bodies_append, List.length_append, ← count]
    exact Nat.lt_succ_of_le (Nat.not_lt.1 full)

theorem overflows_of_error (nodes : List Node) : ∀ overflow,
    (Compiler.start "").nodes nodes = .error overflow →
      Request.Overflows (Node.requestsAll nodes) overflow.pool := by
  induction nodes using Node.bodies_induction with
  | step nodes ih =>
    intro overflow failed
    have answers := answers_nodes (roomy_start "") nodes
    rw [failed] at answers
    exact answers.overflows ih

end Compiler

namespace Code

/-- The table has each of the texts once, and no other. -/
structure Lists (table : Array String) (texts : List String) : Prop where
  once : table.toList.Nodup
  all : ∀ text, text ∈ table ↔ text ∈ texts

/-- The tables of a block hold what it was asked for, and so do those of its children, which stand
in the order of the bodies. -/
inductive Tables : Code → List Request → Prop where
  | intro {code : Code} {requests : List Request}
      (constants : Lists code.constants (Request.constants requests))
      (names : Lists code.names (Request.names requests))
      (count : code.children.size = (Request.bodies requests).length)
      (children : ∀ (index : Nat) (child : Code) (body : List Node),
        code.children[index]? = some child →
        (Request.bodies requests)[index]? = some body → Tables child (Node.requestsAll body)) :
      Tables code requests

theorem lists_internAll (texts : List String) :
    Lists (Pool.empty.internAll texts).items texts where
  once := Pool.nodup_items (Pool.faithful_internAll Pool.faithful_empty texts)
  all text := by
    rw [Pool.mem_internAll Pool.faithful_empty]
    simp [Pool.empty]

end Code

namespace Compiler

theorem Grants.tables {name : String} {next : Compiler} {requests : List Request}
    (grants : (Compiler.start name).Grants next requests)
    (inner : ∀ body ∈ Request.bodies requests, ∀ built,
      (Compiler.start "").nodes body = .ok built →
        built.finish.Tables (Node.requestsAll body)) :
    next.finish.Tables requests := by
  have same := sameTables_emit next .halt []
  obtain ⟨added, grown, matched⟩ := grants.children
  have children : next.finish.children.toList = added := by
    calc
      next.finish.children.toList = next.builder.children.toList :=
        congrArg Array.toList same.children
      _ = added := grown
  refine .intro ?_ ?_ ?_ ?_
  · rw [show next.finish.constants = next.builder.constants.items from
      congrArg Pool.items same.constants, grants.constants]
    exact Code.lists_internAll _
  · rw [show next.finish.names = next.builder.names.items from congrArg Pool.items same.names,
      grants.names]
    exact Code.lists_internAll _
  · rw [← Array.length_toList, children, matched.length_eq]
  · intro index child body found asked
    rw [← Array.getElem?_toList, children] at found
    obtain ⟨bound, rfl⟩ := List.getElem?_eq_some_iff.1 found
    obtain ⟨boundBody, rfl⟩ := List.getElem?_eq_some_iff.1 asked
    obtain ⟨built, compiled, finished⟩ := matched.get bound boundBody
    have tables := inner _ (List.getElem_mem boundBody) built compiled
    rw [finished] at tables
    exact tables

theorem tables_of_ok (nodes : List Node) : ∀ built, (Compiler.start "").nodes nodes = .ok built →
    built.finish.Tables (Node.requestsAll nodes) := by
  induction nodes using Node.bodies_induction with
  | step nodes ih =>
    intro built compiled
    have answers := answers_nodes (roomy_start "") nodes
    rw [compiled] at answers
    exact Grants.tables answers ih

end Compiler

/-- Operands are never cut off, and an overflow is reported for the pool that it is in. Code is
generated from a tree exactly if each block on its own has at most 65536 distinct text constants,
65536 distinct names and 65536 bodies; otherwise the pool of the first request that is one too many
is reported, which is never the one of the section entries. The tables of generated code hold each
text asked for once and the bodies in order, and its operands lead back to what the tree says. -/
theorem toCode_fits_or_overflows (node : Node) (name : String) :
    ((∃ code, node.toCode name = .ok code) ↔
      ∀ block, Request.IsBlock node.requests block → Request.Indexed block) ∧
    (∀ pool, (∃ overflow, node.toCode name = .error overflow ∧ overflow.pool = pool) ↔
      Request.Overflows node.requests pool) ∧
    (∀ overflow, node.toCode name = .error overflow → overflow.pool ≠ .sections) ∧
    ∀ code, node.toCode name = .ok code →
      code.Tables node.requests ∧ Compiler.LaysBody code [node] := by
  have answers := Compiler.answers_node (Compiler.roomy_start name) node
  have compiles : (∃ code, node.toCode name = .ok code) ↔ Request.Fits node.requests := by
    rw [← answers.fits_iff]
    constructor
    · rintro ⟨code, generated⟩
      obtain ⟨next, compiled, -⟩ := Compiler.map_eq_ok generated
      exact ⟨next, compiled⟩
    · rintro ⟨next, compiled⟩
      exact ⟨next.finish, by rw [Node.toCode, compiled]; rfl⟩
  have reports (overflow : Overflow) (failed : node.toCode name = .error overflow) :
      Request.Overflows node.requests overflow.pool := by
    unfold Node.toCode at failed
    cases compiled : (Compiler.start name).node node with
    | ok next =>
      rw [compiled] at failed
      cases failed
    | error other =>
      rw [compiled] at failed answers
      cases failed
      exact answers.overflows fun body _ => Compiler.overflows_of_error body
  refine ⟨compiles, ?_, ?_, ?_⟩
  · intro pool
    constructor
    · rintro ⟨overflow, failed, rfl⟩
      exact reports overflow failed
    · intro overflows
      cases outcome : node.toCode name with
      | ok code => exact absurd (compiles.1 ⟨code, outcome⟩) overflows.not_fits
      | error overflow => exact ⟨overflow, rfl, (reports overflow outcome).unique overflows⟩
  · intro overflow failed same
    have overflows := reports overflow failed
    rw [same] at overflows
    exact Request.not_overflows_sections overflows
  · intro code generated
    refine ⟨?_, Node.laysBody_toCode generated⟩
    obtain ⟨next, compiled, rfl⟩ := Compiler.map_eq_ok generated
    rw [compiled] at answers
    exact Compiler.Grants.tables answers fun body _ => Compiler.tables_of_ok body

namespace Request

theorem constants_constants (texts : List String) : constants (texts.map .constant) = texts := by
  induction texts with
  | nil => rfl
  | cons text rest ih => exact congrArg (text :: ·) ih

theorem fits_constants {texts : List String} (few : texts.length ≤ 65536) :
    Fits (texts.map .constant) := by
  have names : names (texts.map .constant) = [] := by
    induction texts with
    | nil => rfl
    | cons text rest ih => exact ih (Nat.le_of_succ_le few)
  have bodies : bodies (texts.map .constant) = [] := by
    clear names
    induction texts with
    | nil => rfl
    | cons text rest ih => exact ih (Nat.le_of_succ_le few)
  refine fits_iff.2 ⟨⟨?_, by simp [names], by simp [bodies]⟩, by simp [bodies]⟩
  rw [constants_constants]
  exact Nat.le_trans (List.toFinset_card_le texts) few

end Request

/-- Texts that all differ. -/
def stairs (count : Nat) : List String :=
  (List.range count).map fun length => String.ofList (List.replicate (length + 1) 'a')

theorem card_stairs (count : Nat) : (stairs count).toFinset.card = count := by
  have distinct : (stairs count).Nodup := by
    apply List.Nodup.map ?_ List.nodup_range
    intro first second same
    simpa using congrArg String.length same
  rw [List.toFinset_card_of_nodup distinct, stairs, List.length_map, List.length_range]

theorem requests_stairs (count : Nat) : (Node.sequence ((stairs count).map .text)).requests =
    (stairs count).map .constant := by
  rw [Node.requests]
  unfold stairs
  induction List.range count with
  | nil => rw [List.map_nil, List.map_nil, List.map_nil, Node.requestsAll]
  | cons length lengths ih =>
    rw [List.map_cons, List.map_cons, List.map_cons, Node.requestsAll, Node.requests, ih,
      if_neg (by simp)]
    rfl

/-- As many different texts as fit, and one more. -/
theorem toCode_fits_or_overflows_stairs :
    (∃ code, (Node.sequence ((stairs 65536).map .text)).toCode "" = .ok code) ∧
      ∃ overflow, (Node.sequence ((stairs 65537).map .text)).toCode "" = .error overflow ∧
        overflow.pool = .textConstants := by
  have fits : Request.Fits ((stairs 65536).map .constant) :=
    Request.fits_constants (by simp [stairs])
  constructor
  · apply (toCode_fits_or_overflows _ "").1.2
    rw [requests_stairs]
    exact fits
  · apply ((toCode_fits_or_overflows _ "").2.1 .textConstants).2
    have last : stairs 65537 = stairs 65536 ++
        [String.ofList (List.replicate (65536 + 1) 'a')] := by
      unfold stairs
      rw [List.range_succ, List.map_append]
      rfl
    rw [requests_stairs, last, List.map_append]
    refine .constants [] fits ?_
    rw [Request.constants_append, Request.constants_constants]
    change 65536 < (stairs 65536 ++ [_]).toFinset.card
    rw [← last, card_stairs]
    decide

end Mustache
