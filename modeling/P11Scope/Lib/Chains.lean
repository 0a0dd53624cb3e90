import Mathlib

/-!
# Intrusive chains

Singly linked chains that end in a sentinel, and an index made of one chain per
bucket.  A link is read from storage the chain does not own, so reading it may
fail; a chain records that every link on it can be read.
-/

variable {fuel : Nat}

namespace P11Scope.Lib

open Function List

variable {Node Bucket Result : Type} {nil : Node}

/-- The nodes met from `start` until the sentinel. -/
def Chain (nil : Node) (next : Node → Option Node) : Node → List Node → Prop
  | start, [] => start = nil
  | start, node :: rest =>
    start = node ∧ node ≠ nil ∧ ∃ after, next node = some after ∧ Chain nil next after rest

/-- Follow a chain until a node answers.  The outer `none` is a link that cannot
be read, or a walk that outlives its fuel. -/
def walk [DecidableEq Node] (nil : Node) (next : Node → Option Node)
    (visit : Node → Option Result) : Nat → Node → Option (Option Result)
  | 0, _ => none
  | fuel + 1, node =>
    if node = nil then some none
    else
      match visit node with
      | some result => some (some result)
      | none => (next node).bind (walk nil next visit fuel)

/-- The node whose link names `node`.  The sentinel is an assertion failure. -/
def predecessor [DecidableEq Node] (nil : Node) (next : Node → Option Node) (node : Node) :
    Nat → Node → Option Node
  | 0, _ => none
  | fuel + 1, previous =>
    if previous = nil then none
    else
      (next previous).bind fun after =>
        if after = node then some previous else predecessor nil next node fuel after

namespace Chain

variable {next other : Node → Option Node} {start : Node} {nodes : List Node}

theorem congr (chain : Chain nil next start nodes) (same : ∀ node ∈ nodes, other node = next node) :
    Chain nil other start nodes := by
  induction nodes generalizing start with
  | nil => exact chain
  | cons node rest ih =>
    obtain ⟨begins, proper, after, link, later⟩ := chain
    refine ⟨begins, proper, after, ?_, ih later fun member present => ?_⟩
    · rw [same node mem_cons_self, link]
    · exact same member (mem_cons_of_mem _ present)

theorem readable (chain : Chain nil next start nodes) {node : Node} (member : node ∈ nodes) :
    ∃ after, next node = some after := by
  induction nodes generalizing start with
  | nil => cases member
  | cons first rest ih =>
    obtain ⟨_, _, after, link, later⟩ := chain
    rcases mem_cons.mp member with rfl | inside
    · exact ⟨after, link⟩
    · exact ih later inside

variable [DecidableEq Node]

/-- Pushing a node in front. -/
theorem link (chain : Chain nil next start nodes) {node : Node} (proper : node ≠ nil)
    (fresh : node ∉ nodes) :
    Chain nil (update next node (some start)) node (node :: nodes) := by
  refine ⟨rfl, proper, start, update_self .., chain.congr fun member present => ?_⟩
  exact update_of_ne (ne_of_mem_of_not_mem present fresh) ..

/-- Leaving out the node after `previous`. -/
theorem skip {before rest : List Node} {previous node after : Node}
    (chain : Chain nil next start (before ++ previous :: node :: rest))
    (distinct : (before ++ previous :: node :: rest).Nodup) (link : next node = some after) :
    Chain nil (update next previous (some after)) start (before ++ previous :: rest) := by
  induction before generalizing start with
  | nil =>
    obtain ⟨begins, proper, middle, _, same, _, last, found, later⟩ := chain
    rw [link] at found
    cases found
    refine ⟨begins, proper, after, update_self .., later.congr fun member present => ?_⟩
    refine update_of_ne (fun same => ?_) ..
    exact (nodup_cons.mp distinct).1 (mem_cons_of_mem _ (same ▸ present))
  | cons first more ih =>
    obtain ⟨begins, proper, middle, found, later⟩ := chain
    obtain ⟨apart, distinct⟩ := nodup_cons.mp distinct
    refine ⟨begins, proper, middle, ?_, ih later distinct⟩
    rw [update_of_ne, found]
    rintro rfl
    exact apart (mem_append_right _ mem_cons_self)

variable (chain : Chain nil next start nodes)
include chain

theorem walk_eq (visit : Node → Option Result) (enough : nodes.length < fuel) :
    walk nil next visit fuel start = some (nodes.findSome? visit) := by
  induction nodes generalizing start fuel with
  | nil =>
    cases chain
    cases fuel with
    | zero => cases enough
    | succ fuel => exact if_pos rfl
  | cons node rest ih =>
    obtain ⟨rfl, proper, after, link, later⟩ := chain
    cases fuel with
    | zero => cases enough
    | succ fuel =>
      rw [walk, if_neg proper, findSome?_cons]
      cases answered : visit start with
      | some result => rfl
      | none =>
        rw [link]
        exact ih later (Nat.lt_of_succ_lt_succ enough)

/-- A node that is on the chain, but not in front, has a predecessor there. -/
theorem predecessor_eq {node : Node} (member : node ∈ nodes) (behind : start ≠ node)
    (enough : nodes.length < fuel) :
    ∃ before previous rest, nodes = before ++ previous :: node :: rest ∧
      predecessor nil next node fuel start = some previous := by
  induction nodes generalizing start fuel with
  | nil => cases member
  | cons first more ih =>
    obtain ⟨rfl, proper, after, link, later⟩ := chain
    cases fuel with
    | zero => cases enough
    | succ fuel =>
      rw [predecessor, if_neg proper, link]
      have inside : node ∈ more :=
        (mem_cons.mp member).resolve_left fun same => behind same.symm
      by_cases found : after = node
      case pos =>
        cases more with
        | nil => cases inside
        | cons second rest =>
          have same : after = second := later.1
          refine ⟨[], start, rest, ?_, ?_⟩
          · rw [← found, same]
            rfl
          · exact if_pos found
      case neg =>
        obtain ⟨before, previous, rest, split, answer⟩ :=
          ih later inside found (Nat.lt_of_succ_lt_succ enough)
        refine ⟨start :: before, previous, rest, ?_, ?_⟩
        · rw [split]
          rfl
        · exact (if_neg found).trans answer

end Chain

/-! ## Chains by bucket -/

/-- Each bucket's chain holds exactly the nodes stored under it, each once. -/
def Indexed (nil : Node) (heads : Bucket → Node) (next : Node → Option Node)
    (stored : Node → Option Bucket) : Prop :=
  ∀ bucket, ∃ nodes, Chain nil next (heads bucket) nodes ∧ nodes.Nodup ∧
    ∀ node, node ∈ nodes ↔ stored node = some bucket

namespace Indexed

variable {heads : Bucket → Node} {next : Node → Option Node} {stored : Node → Option Bucket}
variable {bucket : Bucket} {node : Node}

section

variable (index : Indexed nil heads next stored)
include index

theorem congr {other : Node → Option Node}
    (same : ∀ node, (stored node).isSome → other node = next node) :
    Indexed nil heads other stored := by
  intro bucket
  obtain ⟨nodes, chain, distinct, members⟩ := index bucket
  refine ⟨nodes, chain.congr fun node present => same node ?_, distinct, members⟩
  rw [(members node).mp present]
  rfl

variable (present : stored node = some bucket)
include present

theorem readable : ∃ after, next node = some after := by
  obtain ⟨nodes, chain, _, members⟩ := index bucket
  exact chain.readable ((members node).mpr present)

/-- A bucket that stores a node begins with one. -/
theorem head_stored : heads bucket ≠ nil ∧ stored (heads bucket) = some bucket := by
  obtain ⟨nodes, chain, _, members⟩ := index bucket
  cases nodes with
  | nil => cases (members node).mpr present
  | cons first rest =>
    obtain ⟨rfl, proper, _⟩ := chain
    exact ⟨proper, (members _).mp mem_cons_self⟩

end

variable [DecidableEq Node]

/-- Fuel that no chain of stored nodes exhausts. -/
def Enough (stored : Node → Option Bucket) (fuel : Nat) : Prop :=
  ∀ nodes : List Node, nodes.Nodup → (∀ node ∈ nodes, (stored node).isSome) → nodes.length < fuel

/-- A search finds the only answer that nodes give, if one stored under its bucket
gives it. -/
theorem walk_eq (index : Indexed nil heads next stored) (visit : Node → Option Result)
    (enough : Enough stored fuel) (bucket : Bucket) {answer : Option Result}
    (only : ∀ node result, visit node = some result → answer = some result)
    (given : ∀ result, answer = some result →
      ∃ node, stored node = some bucket ∧ visit node = some result) :
    walk nil next visit fuel (heads bucket) = some answer := by
  obtain ⟨nodes, chain, distinct, members⟩ := index bucket
  have short := enough nodes distinct fun node present => by
    rw [(members node).mp present]
    rfl
  rw [chain.walk_eq visit short]
  cases found : nodes.findSome? visit with
  | none =>
    refine congrArg some (Option.eq_none_iff_forall_ne_some.mpr fun result same => ?_).symm
    obtain ⟨node, present, answered⟩ := given result same
    have silent := findSome?_eq_none_iff.mp found node ((members node).mpr present)
    rw [silent] at answered
    cases answered
  | some result =>
    obtain ⟨node, _, answered⟩ := exists_of_findSome?_eq_some found
    rw [only node result answered]

variable [DecidableEq Bucket]

theorem link (index : Indexed nil heads next stored) (proper : node ≠ nil)
    (fresh : stored node = none) (bucket : Bucket) :
    Indexed nil (update heads bucket node)
      (update next node (some (heads bucket)))
      (update stored node (some bucket)) := by
  intro other
  obtain ⟨nodes, chain, distinct, members⟩ := index other
  have absent : node ∉ nodes := by
    intro present
    rw [(members node).mp present] at fresh
    cases fresh
  by_cases here : other = bucket
  case pos =>
    subst here
    refine ⟨node :: nodes, ?_, nodup_cons.mpr ⟨absent, distinct⟩, fun member => ?_⟩
    · rw [update_self]
      exact chain.link proper absent
    · by_cases same : member = node
      · subst same
        simp
      · rw [update_of_ne same, ← members]
        simp [same]
  case neg =>
    refine ⟨nodes, ?_, distinct, fun member => ?_⟩
    · rw [update_of_ne here]
      exact chain.congr fun member present =>
        update_of_ne (ne_of_mem_of_not_mem present absent) ..
    · by_cases same : member = node
      · subst same
        simp [absent, Ne.symm here]
      · rw [update_of_ne same, ← members]

omit [DecidableEq Bucket] in
/-- Members after one stored node is left out of its bucket's list. -/
theorem members_left_out {nodes rest : List Node} (members : ∀ node, node ∈ nodes ↔
      stored node = some bucket) (split : ∀ member, member ∈ rest ↔ member ∈ nodes ∧ member ≠ node)
    (member : Node) : member ∈ rest ↔ update stored node none member = some bucket := by
  rw [split, members]
  by_cases same : member = node
  · simp [same]
  · rw [update_of_ne same]
    simp [same]

omit [DecidableEq Bucket] in
/-- Buckets other than the node's own keep their lists when it is left out. -/
theorem other_members (present : stored node = some bucket) {other : Bucket}
    (apart : other ≠ bucket) {nodes : List Node}
    (members : ∀ node, node ∈ nodes ↔ stored node = some other) (member : Node) :
    member ∈ nodes ↔ update stored node none member = some other := by
  rw [members]
  by_cases same : member = node
  · subst same
    simp [present, apart.symm]
  · rw [update_of_ne same]

variable (index : Indexed nil heads next stored)
include index

/-- Unlinking the first node of a chain. -/
theorem unlink_head (first : heads bucket = node) (present : stored node = some bucket)
    {after : Node} (link : next node = some after) :
    Indexed nil (update heads bucket after) next (update stored node none) := by
  intro other
  obtain ⟨nodes, chain, distinct, members⟩ := index other
  by_cases here : other = bucket
  case pos =>
    subst here
    cases nodes with
    | nil => cases (members node).mpr present
    | cons start rest =>
      obtain ⟨begins, _, later, found, tail⟩ := chain
      have same : start = node := begins.symm.trans first
      subst same
      rw [link] at found
      cases found
      obtain ⟨apart, distinct⟩ := nodup_cons.mp distinct
      refine ⟨rest, ?_, distinct, members_left_out members fun member => ?_⟩
      · rw [update_self]
        exact tail
      · constructor
        · intro inside
          exact ⟨mem_cons_of_mem _ inside, fun same => apart (same ▸ inside)⟩
        · rintro ⟨inside, other⟩
          exact (mem_cons.mp inside).resolve_left other
  case neg =>
    refine ⟨nodes, ?_, distinct, other_members present here members⟩
    rw [update_of_ne here]
    exact chain

/-- Unlinking a node behind another one. -/
theorem unlink_behind (behind : heads bucket ≠ node) (present : stored node = some bucket)
    {after : Node} (link : next node = some after) (enough : Enough stored fuel) :
    ∃ previous, predecessor nil next node fuel (heads bucket) = some previous ∧
      stored previous = some bucket ∧
      Indexed nil heads (update next previous (some after)) (update stored node none) := by
  obtain ⟨nodes, chain, distinct, members⟩ := index bucket
  have short := enough nodes distinct fun node present => by
    rw [(members node).mp present]
    rfl
  obtain ⟨before, previous, rest, rfl, found⟩ :=
    chain.predecessor_eq ((members node).mpr present) behind short
  have held : stored previous = some bucket :=
    (members previous).mp (mem_append_right _ mem_cons_self)
  refine ⟨previous, found, held, fun other => ?_⟩
  by_cases here : other = bucket
  case pos =>
    subst here
    have kept : (before ++ previous :: rest).Sublist (before ++ previous :: node :: rest) :=
      (List.Sublist.refl before).append ((sublist_cons_self node rest).cons_cons previous)
    refine ⟨_, chain.skip distinct link, distinct.sublist kept,
      members_left_out members fun member => ?_⟩
    have apart : node ∉ before ++ previous :: rest := by
      rw [append_cons] at distinct
      have moved := (nodup_cons.mp (nodup_middle.mp distinct)).1
      simpa using moved
    constructor
    · intro inside
      exact ⟨kept.subset inside, fun same => apart (same ▸ inside)⟩
    · rintro ⟨inside, differs⟩
      simp only [mem_append, mem_cons] at inside ⊢
      tauto
  case neg =>
    obtain ⟨others, chainThere, distinctThere, membersThere⟩ := index other
    refine ⟨others, chainThere.congr fun member inside => ?_, distinctThere,
      other_members present here membersThere⟩
    refine update_of_ne (fun same => here ?_) ..
    rw [same, membersThere, held] at inside
    exact (Option.some.inj inside).symm

end Indexed

end P11Scope.Lib
