import JavaFacts.Proofs.Preorder
import JavaFacts.Syntax.Walk

/-!
# Walks and recursion

A walk keeps a stack of nodes that are still to be offered. This file shows that it does the same as
the recursion that offers a node and then, if it is told to descend, walks the children one after
another: both reach the same state of the visitor and the same outcome.

The offers of a walk are read off a visitor that also logs them. They are the pre-order of the tree,
cut in two ways only: below a node that is skipped, and after the node that stops the walk.
-/

namespace JavaFacts

open Node

namespace Visitor

variable {σ ε : Type}

/-! ## The recursion -/

mutual

/-- Offers a node and, if the visitor says so, walks what is below it. -/
def walkTree (visitor : Visitor σ ε) (node : Node) (state : σ) : WalkResult σ ε :=
  match visitor.visit node state with
  | (state, .descend) => visitor.walkForest node.children state
  | (state, .skip) => ⟨state, .ok ()⟩
  | (state, .stop error) => ⟨state, .error error⟩
termination_by (sizeOf node, 1)
decreasing_by
  have smaller := node.sizeOf_children
  rcases Nat.lt_or_eq_of_le smaller with less | equal
  · exact Prod.Lex.left _ _ less
  · rw [equal]
    exact Prod.Lex.right _ (by decide)

/-- Walks trees one after another, as long as no walk is stopped. -/
def walkForest (visitor : Visitor σ ε) (nodes : List Node) (state : σ) : WalkResult σ ε :=
  match nodes with
  | [] => ⟨state, .ok ()⟩
  | node :: rest =>
    match visitor.walkTree node state with
    | ⟨state, .ok _⟩ => visitor.walkForest rest state
    | ⟨state, .error error⟩ => ⟨state, .error error⟩
termination_by (sizeOf nodes, 0)

end

theorem walkForest_nil (visitor : Visitor σ ε) (state : σ) :
    visitor.walkForest [] state = ⟨state, .ok ()⟩ := by
  rw [walkForest]

theorem walkForest_append (visitor : Visitor σ ε) (left right : List Node) (state : σ) :
    visitor.walkForest (left ++ right) state =
      match visitor.walkForest left state with
      | ⟨state, .ok _⟩ => visitor.walkForest right state
      | ⟨state, .error error⟩ => ⟨state, .error error⟩ := by
  induction left generalizing state with
  | nil => rw [List.nil_append, walkForest_nil]
  | cons node rest ih =>
      rw [List.cons_append, walkForest, walkForest]
      rcases visitor.walkTree node state with ⟨next, _ | _⟩
      · rfl
      · exact ih next

/-! ## Steps of the loop -/

theorem walkAll_nil (visitor : Visitor σ ε) (state : σ) :
    visitor.walkAll state [] = ⟨state, .ok ()⟩ := by
  rw [walkAll]

theorem walkAll_descend {visitor : Visitor σ ε} {node : Node} {state next : σ}
    (answer : visitor.visit node state = (next, .descend)) (stack : List Node) :
    visitor.walkAll state (node :: stack) = visitor.walkAll next (node.children ++ stack) := by
  rw [walkAll, answer]

theorem walkAll_skip {visitor : Visitor σ ε} {node : Node} {state next : σ}
    (answer : visitor.visit node state = (next, .skip)) (stack : List Node) :
    visitor.walkAll state (node :: stack) = visitor.walkAll next stack := by
  rw [walkAll, answer]

theorem walkAll_stop {visitor : Visitor σ ε} {node : Node} {state next : σ} {error : ε}
    (answer : visitor.visit node state = (next, .stop error)) (stack : List Node) :
    visitor.walkAll state (node :: stack) = ⟨next, .error error⟩ := by
  rw [walkAll, answer]

/-- The loop on a stack does what the recursion does on its nodes, one after another. -/
theorem walkAll_eq_walkForest (visitor : Visitor σ ε) (stack : List Node) (state : σ) :
    visitor.walkAll state stack = visitor.walkForest stack state := by
  induction stack using stack_induction generalizing state with
  | nil => rw [walkAll_nil, walkForest_nil]
  | cons node rest ihBelow ihRest =>
      rw [walkForest, walkTree]
      rcases answer : visitor.visit node state with ⟨next, _ | _ | error⟩
      · rw [walkAll_descend answer, ihBelow, walkForest_append]
      · rw [walkAll_skip answer, ihRest]
      · rw [walkAll_stop answer]

theorem walk_eq_walkTree (visitor : Visitor σ ε) (root : Node) (state : σ) :
    visitor.walk root state = visitor.walkTree root state := by
  rw [walk, walkAll_eq_walkForest, walkForest]
  rcases visitor.walkTree root state with ⟨next, _ | _⟩
  · rfl
  · exact walkForest_nil visitor next

end Visitor

/-! ## The offers of a walk -/

/-- A node that was offered, and what the visitor answered. -/
structure Offer (ε : Type) where
  node : Node
  answer : Answer ε

namespace Offer

variable {ε : Type}

/-- The nodes that are settled by an offer: with a skipped node all that is below it. -/
def settled (offer : Offer ε) : List Node :=
  match offer.answer with
  | .skip => offer.node.preorder
  | _ => [offer.node]

/-- The visitor did not stop the walk here. -/
def GoesOn (offer : Offer ε) : Prop := ∀ error, offer.answer ≠ .stop error

theorem node_sublist_settled (offer : Offer ε) : [offer.node].Sublist offer.settled := by
  rcases offer with ⟨node, _ | _ | error⟩
  · exact List.Sublist.refl _
  · change [node].Sublist node.preorder
    rw [preorder_eq]
    exact List.Sublist.cons_cons _ (List.nil_sublist _)
  · exact List.Sublist.refl _

theorem nodes_sublist_settled (offers : List (Offer ε)) :
    (offers.map node).Sublist (offers.flatMap settled) := by
  induction offers with
  | nil => exact List.Sublist.refl _
  | cons offer later ih =>
      rw [List.map_cons, List.flatMap_cons]
      exact offer.node_sublist_settled.append ih

theorem settled_eq_nodes {offers : List (Offer ε)}
    (descends : ∀ offer ∈ offers, offer.answer = .descend) :
    offers.flatMap settled = offers.map node := by
  induction offers with
  | nil => rfl
  | cons offer later ih =>
      have here := descends offer (by simp)
      have after := ih fun offer offerMem => descends offer (by simp [offerMem])
      rw [List.map_cons, List.flatMap_cons, after, settled, here]
      rfl

end Offer

namespace Visitor

variable {σ ε : Type}

/-- Offers lead from a state to another one, if each is answered as it says. -/
def Leads (visitor : Visitor σ ε) : σ → List (Offer ε) → σ → Prop
  | start, [], final => final = start
  | start, offer :: later, final =>
    ∃ next, visitor.visit offer.node start = (next, offer.answer) ∧ visitor.Leads next later final

/--
How offers end: either everything is settled, or the last offer stopped the walk and there may be
nodes that were not reached.
-/
def EndsAs (offers : List (Offer ε)) (unreached : List Node) : Except ε Unit → Prop
  | .ok _ => unreached = [] ∧ ∀ offer ∈ offers, offer.GoesOn
  | .error error =>
    ∃ before node, offers = before ++ [⟨node, .stop error⟩] ∧ ∀ offer ∈ before, offer.GoesOn

/--
The offers of a run over a list of nodes. They settle the list from left to right: an offered node
is settled itself, a skipped one with all that is below it, and only what comes after the node that
stopped the run is left over.
-/
structure IsRun (visitor : Visitor σ ε) (start : σ) (nodes : List Node)
    (offers : List (Offer ε)) (result : WalkResult σ ε) : Prop where
  leads : visitor.Leads start offers result.state
  settles : ∃ unreached, nodes = offers.flatMap Offer.settled ++ unreached ∧
    EndsAs offers unreached result.outcome

namespace IsRun

variable {visitor : Visitor σ ε} {start next : σ} {node : Node} {nodes : List Node}
  {offers : List (Offer ε)} {result : WalkResult σ ε}

theorem nil (visitor : Visitor σ ε) (state : σ) : visitor.IsRun state [] [] ⟨state, .ok ()⟩ where
  leads := rfl
  settles := ⟨[], rfl, rfl, by simp⟩

theorem endsAs_cons {offer : Offer ε} {unreached : List Node} {outcome : Except ε Unit}
    (goesOn : offer.GoesOn) (ends : EndsAs offers unreached outcome) :
    EndsAs (offer :: offers) unreached outcome := by
  cases outcome with
  | ok _ =>
      rcases ends with ⟨settled, allGoOn⟩
      refine ⟨settled, ?_⟩
      intro other otherMem
      rcases List.mem_cons.mp otherMem with rfl | later
      · exact goesOn
      · exact allGoOn other later
  | error error =>
      rcases ends with ⟨before, last, rfl, allGoOn⟩
      refine ⟨offer :: before, last, rfl, ?_⟩
      intro other otherMem
      rcases List.mem_cons.mp otherMem with rfl | later
      · exact goesOn
      · exact allGoOn other later

/-- A run goes on after an offer that does not stop it. -/
theorem cons (offer : Offer ε) (goesOn : offer.GoesOn)
    (answer : visitor.visit offer.node start = (next, offer.answer))
    (run : visitor.IsRun next nodes offers result) :
    visitor.IsRun start (offer.settled ++ nodes) (offer :: offers) result where
  leads := ⟨next, answer, run.leads⟩
  settles := by
    rcases run.settles with ⟨unreached, split, ends⟩
    refine ⟨unreached, ?_, endsAs_cons goesOn ends⟩
    rw [List.flatMap_cons, List.append_assoc, split]

/-- A run ends with an offer that stops it. -/
theorem stop {error : ε} (answer : visitor.visit node start = (next, .stop error))
    (nodes : List Node) :
    visitor.IsRun start (node :: nodes) [⟨node, .stop error⟩] ⟨next, .error error⟩ where
  leads := ⟨next, answer, rfl⟩
  settles := ⟨nodes, rfl, [], node, rfl, by simp⟩

theorem nodes_sublist (run : visitor.IsRun start nodes offers result) :
    (offers.map Offer.node).Sublist nodes := by
  rcases run.settles with ⟨unreached, split, _⟩
  rw [split]
  exact (Offer.nodes_sublist_settled offers).trans (List.sublist_append_left _ _)

/-- A run that descends everywhere offers all nodes. -/
theorem offers_all (run : visitor.IsRun start nodes offers result)
    (descends : ∀ offer ∈ offers, offer.answer = .descend) :
    result.outcome = .ok () ∧ offers.map Offer.node = nodes := by
  rcases run.settles with ⟨unreached, split, ends⟩
  rcases ended : result.outcome with error | _
  · rw [ended] at ends
    rcases ends with ⟨before, node, rfl, _⟩
    have impossible := descends ⟨node, .stop error⟩ (by simp)
    cases impossible
  · rw [ended] at ends
    rcases ends with ⟨rfl, _⟩
    rw [split, Offer.settled_eq_nodes descends, List.append_nil]
    exact ⟨rfl, rfl⟩

end IsRun

/-- The visitor that also logs what is offered to it. -/
def logged (visitor : Visitor σ ε) : Visitor (σ × List (Offer ε)) ε where
  visit node kept :=
    let (state, answer) := visitor.visit node kept.1
    ((state, kept.2 ++ [⟨node, answer⟩]), answer)

/-- The offers of the walk of a tree. -/
def offers (visitor : Visitor σ ε) (root : Node) (state : σ) : List (Offer ε) :=
  (visitor.logged.walk root (state, [])).state.2

/-- Logging changes neither the state nor the outcome, and what is logged is a run. -/
theorem walkAll_logged (visitor : Visitor σ ε) (stack : List Node) (state : σ)
    (log : List (Offer ε)) :
    ∃ offers,
      visitor.logged.walkAll (state, log) stack =
        ⟨((visitor.walkAll state stack).state, log ++ offers),
          (visitor.walkAll state stack).outcome⟩ ∧
      visitor.IsRun state (preorderAll stack) offers (visitor.walkAll state stack) := by
  induction stack using stack_induction generalizing state log with
  | nil =>
      refine ⟨[], ?_, ?_⟩
      · rw [walkAll_nil, walkAll_nil, List.append_nil]
      · rw [walkAll_nil]
        exact IsRun.nil visitor state
  | cons node rest ihBelow ihRest =>
      rcases answer : visitor.visit node state with ⟨next, reply⟩
      have loggedAnswer : visitor.logged.visit node (state, log) =
          ((next, log ++ [⟨node, reply⟩]), reply) := by
        simp only [logged, answer]
      cases reply with
      | descend =>
          rcases ihBelow next (log ++ [⟨node, .descend⟩]) with ⟨offers, same, run⟩
          refine ⟨⟨node, .descend⟩ :: offers, ?_, ?_⟩
          · rw [walkAll_descend loggedAnswer, walkAll_descend answer, same]
            simp
          · rw [walkAll_descend answer, preorderAll_cons]
            exact run.cons ⟨node, .descend⟩ (by simp [Offer.GoesOn]) answer
      | skip =>
          rcases ihRest next (log ++ [⟨node, .skip⟩]) with ⟨offers, same, run⟩
          refine ⟨⟨node, .skip⟩ :: offers, ?_, ?_⟩
          · rw [walkAll_skip loggedAnswer, walkAll_skip answer, same]
            simp
          · rw [walkAll_skip answer]
            exact run.cons ⟨node, .skip⟩ (by simp [Offer.GoesOn]) answer
      | stop error =>
          refine ⟨[⟨node, .stop error⟩], ?_, ?_⟩
          · rw [walkAll_stop loggedAnswer, walkAll_stop answer]
          · rw [walkAll_stop answer, preorderAll_cons]
            exact IsRun.stop answer _

theorem isRun_offers (visitor : Visitor σ ε) (root : Node) (state : σ) :
    visitor.IsRun state root.preorder (visitor.offers root state) (visitor.walk root state) := by
  rcases visitor.walkAll_logged [root] state [] with ⟨offers, same, run⟩
  have isLog : visitor.offers root state = offers := by
    rw [Visitor.offers, walk, same, List.nil_append]
  rw [isLog, ← preorderAll_singleton]
  exact run

/-! ## Walks that never skip -/

/-- A walk that descends everywhere passes through the pre-order from left to right. -/
theorem walk_of_descends {visitor : Visitor σ ε} {step : σ → Node → σ} {root : Node}
    (descends : ∀ node ∈ root.preorder, ∀ state,
      visitor.visit node state = (step state node, .descend))
    (state : σ) : visitor.walk root state = ⟨root.preorder.foldl step state, .ok ()⟩ := by
  rw [← preorderAll_singleton] at descends ⊢
  rw [walk]
  generalize [root] = stack at descends ⊢
  induction stack using stack_induction generalizing state with
  | nil => exact walkAll_nil visitor state
  | cons node rest ih _ =>
      rw [preorderAll_cons] at descends ⊢
      rw [walkAll_descend (descends node (by simp) state)]
      exact ih (step state node) fun other otherMem =>
        descends other (List.mem_cons_of_mem node otherMem)

/-- A walk that descends up to some node and is stopped there ends with the answer to that node. -/
theorem walk_of_stops {visitor : Visitor σ ε} {step : σ → Node → σ} {root node : Node}
    {before after : List Node} {state final : σ} {error : ε}
    (split : root.preorder = before ++ node :: after)
    (descends : ∀ earlier ∈ before, ∀ state,
      visitor.visit earlier state = (step state earlier, .descend))
    (stops : visitor.visit node (before.foldl step state) = (final, .stop error)) :
    visitor.walk root state = ⟨final, .error error⟩ := by
  rw [← preorderAll_singleton] at split
  rw [walk]
  generalize [root] = stack at split ⊢
  induction stack using stack_induction generalizing state before with
  | nil => simp at split
  | cons first rest ih _ =>
      rw [preorderAll_cons] at split
      rcases before with _ | ⟨head, before⟩
      · simp only [List.nil_append, List.cons.injEq] at split
        rcases split with ⟨rfl, _⟩
        exact walkAll_stop stops rest
      · simp only [List.cons_append, List.cons.injEq] at split
        rcases split with ⟨rfl, split⟩
        rw [walkAll_descend (descends first (by simp) state)]
        exact ih (fun earlier earlierMem => descends earlier (by simp [earlierMem])) stops split

end Visitor

/--
A walk agrees with the recursion that offers a node to the callback of its kind and goes on with its
children in the order of the text. What it offers is the pre-order of the tree, in which every node
stands once and right before all that is below it, cut only below skipped nodes and after the node
that stops the walk.
-/
theorem Callbacks.walk_eq_recursion {σ ε : Type} (callbacks : Callbacks σ ε) (root : Node)
    (state : σ) :
    callbacks.visitor.walk root state = callbacks.visitor.walkTree root state ∧
      (∀ node : Node, InTextOrder node.declaredChildren node.children) ∧
      callbacks.visitor.IsRun state root.preorder (callbacks.visitor.offers root state)
        (callbacks.visitor.walk root state) ∧
      ((callbacks.visitor.offers root state).map Offer.node).Sublist root.preorder ∧
      ((∀ offer ∈ callbacks.visitor.offers root state, offer.answer = .descend) →
        (callbacks.visitor.walk root state).outcome = .ok () ∧
          (callbacks.visitor.offers root state).map Offer.node = root.preorder) ∧
      root.preorder.Perm root.subtrees ∧
      ∀ before node after, root.preorder = before ++ node :: after →
        preorderAll node.children <+: after := by
  have run := callbacks.visitor.isRun_offers root state
  refine ⟨callbacks.visitor.walk_eq_walkTree root state, inTextOrder_children, run,
    run.nodes_sublist, run.offers_all, root.preorder_perm_subtrees, ?_⟩
  intro before node after split
  rw [← preorderAll_singleton] at split
  exact preorderAll_children_follows split

end JavaFacts
