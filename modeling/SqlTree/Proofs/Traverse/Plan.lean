import SqlTree.Proofs.Traverse.Preorder
import SqlTree.Traverse.Replace

/-!
# What a replacement does

A replacement interleaves three things: it looks for nodes, it asks for new ones, and it rebuilds
containers, copying each of them late or not at all. This file takes them apart. The nodes that are
asked about are known from the tree alone: they are the `Tree.targets`, the selected nodes that lie
in no other selected node. The tree that results is known from the new nodes alone: it is
`Tree.fill`, which puts them in the places of the targets one after the other. In between, the new
nodes are asked for in order, which is all that happens in the monad.

A computation of this shape is a `Replacement.plan`, and two plans in a row are a plan again. So the
main statement, `Replacement.inTree_eq_plan`, follows along the traversal. It covers replacements
that stop after the first node as well: these ask about the first target only, and `Tree.fill`
leaves the remaining targets alone.
-/

namespace SqlTree

/-! ## Targets, and filling them in -/

namespace Tree

variable (selects : Position → Bool)

/-- The node at a place, if it is selected. -/
def target? (context : Context) (tree : Tree) : Option Position :=
  (tree.position? context).filter selects

mutual
/-- The selected nodes of a tree that lie in no other selected node. -/
def targets (context : Context) (tree : Tree) : List Position :=
  match tree.target? selects context with
  | some position => [position]
  | none => targetsOf (children context tree.content)
termination_by 2 * tree.size
decreasing_by
  have := Walker.pending_children_lt context tree.content
  have := tree.size_content_le
  omega

def targetsOf : List Frame → List Position
  | [] => []
  | frame :: rest => targets frame.context frame.tree ++ targetsOf rest
termination_by frames => 2 * Walker.pending frames + 1
decreasing_by all_goals have := frame.tree.size_pos; simp only [Walker.pending_cons]; omega
end

mutual
/-- The tree with new trees in the places of its targets. Targets for which none is left stay. -/
def fill (context : Context) (news : List Tree) (tree : Tree) : Tree :=
  match tree.target? selects context with
  | some _ => news.headD tree
  | none =>
      tree.withContent (tree.content.withParts (fillParts news (children context tree.content)))
termination_by 2 * tree.size
decreasing_by
  have := Walker.pending_children_lt context tree.content
  have := tree.size_content_le
  omega

/-- Fills several trees. Each takes as many new trees as it has targets. -/
def fillParts (news : List Tree) : List Frame → List Tree
  | [] => []
  | frame :: rest =>
      let taken := (targets selects frame.context frame.tree).length
      fill frame.context (news.take taken) frame.tree :: fillParts (news.drop taken) rest
termination_by frames => 2 * Walker.pending frames + 1
decreasing_by all_goals have := frame.tree.size_pos; simp only [Walker.pending_cons]; omega
end

variable {selects} {context : Context} {tree : Tree}

theorem targets_of_target? {position : Position}
    (found : tree.target? selects context = some position) :
    tree.targets selects context = [position] := by
  rw [targets, found]

theorem targets_of_none (missing : tree.target? selects context = none) :
    tree.targets selects context = targetsOf selects (children context tree.content) := by
  rw [targets, missing]

theorem fill_of_target? {position : Position} (news : List Tree)
    (found : tree.target? selects context = some position) :
    tree.fill selects context news = news.headD tree := by
  rw [fill, found]

theorem fill_of_none (news : List Tree) (missing : tree.target? selects context = none) :
    tree.fill selects context news =
      tree.withContent
        (tree.content.withParts (fillParts selects news (children context tree.content))) := by
  rw [fill, missing]

theorem target?_of_tagged? {record : Tree} {kind : String} (selects : Position → Bool)
    (context : Context) (tagged : tree.tagged? = some (kind, record)) :
    tree.target? selects context =
      if selects ⟨kind, record, tree, context⟩ then some ⟨kind, record, tree, context⟩
      else none := by
  simp [target?, position?, tagged, Option.filter]

theorem target?_of_untagged (selects : Position → Bool) (context : Context)
    (untagged : tree.tagged? = none) : tree.target? selects context = none := by
  simp [target?, position?, untagged]

theorem target?_of_scalar (scalar : tree.isContainer = false) :
    tree.target? selects context = none :=
  target?_of_untagged selects context (tagged?_of_scalar scalar)

theorem children_content_of_scalar (scalar : tree.isContainer = false) :
    children context tree.content = [] := by
  rw [content_of_untagged (tagged?_of_scalar scalar)]
  cases tree <;> simp_all [isContainer, children]

theorem targets_of_scalar (scalar : tree.isContainer = false) :
    tree.targets selects context = [] := by
  rw [targets_of_none (target?_of_scalar scalar), children_content_of_scalar scalar, targetsOf]

theorem targetsOf_eq_flatMap (frames : List Frame) :
    targetsOf selects frames =
      frames.flatMap fun frame => frame.tree.targets selects frame.context := by
  induction frames with
  | nil => simp [targetsOf]
  | cons frame rest ih => simp [targetsOf, ih]

theorem mem_preorder_of_mem_targets {position : Position}
    (mem : position ∈ tree.targets selects context) :
    position ∈ tree.preorder context ∧ selects position = true := by
  induction tree using contentInduction generalizing context with
  | step tree ih =>
      rw [preorder_eq]
      rcases found : tree.target? selects context with _ | target
      · rw [targets_of_none found, targetsOf_eq_flatMap] at mem
        rcases List.mem_flatMap.mp mem with ⟨frame, frameMem, inFrame⟩
        rcases ih frame.tree (mem_parts_of_mem_children frameMem) inFrame with ⟨below, selected⟩
        refine ⟨List.mem_append_right _ ?_, selected⟩
        exact List.mem_flatMap.mpr ⟨frame, frameMem, below⟩
      · rw [targets_of_target? found, List.mem_singleton] at mem
        subst mem
        rcases Option.filter_eq_some_iff.mp found with ⟨here, selected⟩
        exact ⟨List.mem_append_left _ (Option.mem_toList.mpr here), selected⟩

theorem length_fillParts (news : List Tree) (frames : List Frame) :
    (fillParts selects news frames).length = frames.length := by
  induction frames generalizing news with
  | nil => simp [fillParts]
  | cons frame rest ih => simp [fillParts, ih]

theorem length_fillParts_children (news : List Tree) (container : Tree) :
    (fillParts selects news (children context container)).length = container.parts.length := by
  rw [length_fillParts, ← map_tree_children context, List.length_map]

/--
Every part is filled with some of the new trees. If there is a new tree for each target, every part
gets as many as it has targets.
-/
theorem forall_mem_fillParts {frames : List Frame} {news : List Tree} {property : Tree → Prop}
    (filled : ∀ frame ∈ frames, ∀ taken : List Tree, taken ⊆ news →
      (news.length = (targetsOf selects frames).length →
        taken.length = (frame.tree.targets selects frame.context).length) →
      property (frame.tree.fill selects frame.context taken)) :
    ∀ part ∈ fillParts selects news frames, property part := by
  induction frames generalizing news with
  | nil => simp [fillParts]
  | cons frame rest ih =>
      rw [targetsOf, List.length_append] at filled
      intro part mem
      rw [fillParts, List.mem_cons] at mem
      rcases mem with rfl | later
      · apply filled frame List.mem_cons_self _ (List.take_subset _ news)
        intro enough
        rw [List.length_take]
        omega
      · refine ih ?_ part later
        intro other otherMem taken inside length
        apply filled other (List.mem_cons_of_mem frame otherMem) taken
          (List.Subset.trans inside (List.drop_subset _ news))
        intro enough
        apply length
        rw [List.length_drop]
        omega

theorem fillParts_nil (frames : List Frame)
    (kept : ∀ frame ∈ frames, frame.tree.fill selects frame.context [] = frame.tree) :
    fillParts selects [] frames = frames.map (·.tree) := by
  induction frames with
  | nil => simp [fillParts]
  | cons frame rest ih =>
      simp only [fillParts, List.take_nil, List.drop_nil, List.map_cons]
      rw [kept frame List.mem_cons_self,
        ih fun other mem => kept other (List.mem_cons_of_mem frame mem)]

theorem fill_nil (context : Context) (tree : Tree) : tree.fill selects context [] = tree := by
  induction tree using contentInduction generalizing context with
  | step tree ih =>
      rcases found : tree.target? selects context with _ | position
      · rw [fill_of_none [] found, fillParts_nil, map_tree_children, withParts_parts,
          withContent_content]
        intro frame mem
        exact ih frame.tree (mem_parts_of_mem_children mem) frame.context
      · simp [fill_of_target? [] found]

end Tree

/-! ## Copying late -/

namespace Replacement

variable {m : Type → Type} (replacement : Replacement m)

theorem eq_of_isSame {context : Context} {new old : Tree} (container : old.isContainer = true)
    (same : replacement.isSame context new old = true) : new = old :=
  Tree.eq_of_isSameBy replacement.identity.eq_of_test container same

/-- One step of the copy of an object's fields: the new value stands where the old one stood. -/
theorem getD_fields_step {context : Context} {fields front rest : List (String × Tree)}
    {copy : Option (List (String × Tree))} {key : String} {new old : Tree}
    (container : old.isContainer = true)
    (current : copy.getD fields = front ++ (key, old) :: rest) :
    (if replacement.isSame context new old then copy
      else some (Fields.setAt front.length new (copy.getD fields))).getD fields =
        front ++ (key, new) :: rest := by
  split
  · next same => rw [current, replacement.eq_of_isSame container same]
  · rw [current, Option.getD_some, Fields.setAt_length_append]

theorem getD_items_step {context : Context} {items front rest : List Tree}
    {copy : Option (List Tree)} {new old : Tree}
    (container : old.isContainer = true) (current : copy.getD items = front ++ old :: rest) :
    (if replacement.isSame context new old then copy
      else some ((copy.getD items).set front.length new)).getD items = front ++ new :: rest := by
  split
  · next same => rw [current, replacement.eq_of_isSame container same]
  · rw [current, Option.getD_some]
    simp

end Replacement

/-! ## Plans -/

/-- Computations that agree on lists of the right length are the same after a list of actions. -/
theorem mapM_bind_congr {m : Type → Type} [Monad m] [LawfulMonad m] {α β γ : Type}
    (items : List α) (action : α → m β) {left right : List β → m γ}
    (agree : ∀ results : List β, results.length = items.length → left results = right results) :
    items.mapM action >>= left = items.mapM action >>= right := by
  induction items generalizing left right with
  | nil => simpa using agree [] rfl
  | cons item rest ih =>
      simp only [List.mapM_cons, bind_assoc, pure_bind]
      congr 1
      funext result
      apply ih
      intro results length
      exact agree (result :: results) (by simp [length])

theorem mapM_eq_pure_map {m : Type → Type} [Monad m] [LawfulMonad m] {α β : Type} {items : List α}
    {action : α → m β} {answer : α → β}
    (answers : ∀ item ∈ items, action item = pure (answer item)) :
    items.mapM action = pure (items.map answer) := by
  induction items with
  | nil => simp
  | cons item rest ih =>
      rw [List.mapM_cons, answers item List.mem_cons_self,
        ih fun other mem => answers other (List.mem_cons_of_mem item mem)]
      simp

namespace Replacement

variable {m : Type → Type} (replacement : Replacement m)

def selects (position : Position) : Bool :=
  position.matches replacement.kind replacement.predicate

/-- The nodes that are asked about, given whether one has been replaced before. -/
def asked (replaced : Bool) (positions : List Position) : List Position :=
  if replacement.isDone replaced then []
  else if replacement.firstOnly then positions.take 1
  else positions

theorem asked_subset (replaced : Bool)
    (positions : List Position) : replacement.asked replaced positions ⊆ positions := by
  unfold asked
  split
  · exact List.nil_subset positions
  · split
    · exact List.take_subset 1 positions
    · exact List.Subset.refl positions

theorem asked_append (replaced : Bool) (first second : List Position) :
    replacement.asked replaced (first ++ second) =
      replacement.asked replaced first ++
        replacement.asked (replaced || !(replacement.asked replaced first).isEmpty) second := by
  cases everywhere : replacement.firstOnly with
  | false => simp [asked, isDone, everywhere]
  | true => cases replaced <;> cases first <;> simp [asked, isDone, everywhere]

/-- The new nodes for two lists of positions are told apart by the length of the first list. -/
theorem take_drop_of_asked {replaced : Bool} {first second : List Position}
    {front back : List Tree}
    (frontLength : front.length = (replacement.asked replaced first).length)
    (backLength : back.length = (replacement.asked
      (replaced || !(replacement.asked replaced first).isEmpty) second).length) :
    (front ++ back).take first.length = front ∧ (front ++ back).drop first.length = back := by
  cases everywhere : replacement.firstOnly with
  | false =>
      have sameLength : front.length = first.length := by
        simpa [asked, isDone, everywhere] using frontLength
      simp [← sameLength]
  | true =>
      cases replaced with
      | true => simp_all [asked, isDone]
      | false =>
          cases first with
          | nil => simp_all [asked, isDone]
          | cons position rest => simp_all [asked, isDone, List.take_of_length_le]

variable [Monad m]

/-- Asks for the new nodes in order and makes something of them. -/
def plan {β : Type} (replaced : Bool) (positions : List Position) (build : List Tree → β) :
    m (β × Bool) := do
  let news ← (replacement.asked replaced positions).mapM replacement.replace
  pure (build news, replaced || !news.isEmpty)

variable [LawfulMonad m]

/-- Two plans in a row are a plan. -/
theorem plan_bind {β γ : Type} (replaced : Bool) (first second : List Position)
    (build : List Tree → β) (next : β → List Tree → γ) {continuation : β × Bool → m (γ × Bool)}
    (continues : ∀ result,
      continuation result = replacement.plan result.2 second (next result.1)) :
    replacement.plan replaced first build >>= continuation =
      replacement.plan replaced (first ++ second) fun news =>
        next (build (news.take first.length)) (news.drop first.length) := by
  obtain rfl := funext continues
  simp only [plan, bind_assoc, pure_bind, replacement.asked_append, List.mapM_append]
  apply mapM_bind_congr
  intro front frontLength
  have sameFlag : front.isEmpty = (replacement.asked replaced first).isEmpty := by
    rw [Bool.eq_iff_iff, List.isEmpty_iff_length_eq_zero, List.isEmpty_iff_length_eq_zero,
      frontLength]
  rw [sameFlag]
  apply mapM_bind_congr
  intro back backLength
  rcases replacement.take_drop_of_asked frontLength backLength with ⟨taken, dropped⟩
  rw [taken, dropped, ← sameFlag]
  cases front <;> simp

theorem plan_map {β γ : Type} (replaced : Bool) (positions : List Position)
    (build : List Tree → β) (change : β → γ) :
    (replacement.plan replaced positions build >>= fun result =>
        pure (change result.1, result.2)) =
      replacement.plan replaced positions fun news => change (build news) := by
  simp [plan]

theorem plan_nil {β : Type} (replaced : Bool) (build : List Tree → β) :
    replacement.plan replaced [] build = pure (build [], replaced) := by
  cases everywhere : replacement.firstOnly <;> simp [plan, asked, isDone, everywhere]

theorem plan_of_isDone {β : Type} {replaced : Bool} (done : replacement.isDone replaced = true)
    (positions : List Position) (build : List Tree → β) :
    replacement.plan replaced positions build = pure (build [], replaced) := by
  simp [plan, asked, done]

theorem plan_singleton {β : Type} {replaced : Bool} (busy : replacement.isDone replaced = false)
    (position : Position) (build : List Tree → β) :
    replacement.plan replaced [position] build =
      replacement.replace position >>= fun new => pure (build [new], true) := by
  cases everywhere : replacement.firstOnly <;> simp [plan, asked, busy, everywhere]

/-! ## The traversal as a plan -/

/-- A replacement does with a tree what the plan for its targets says, wherever the tree stands. -/
def Follows (tree : Tree) : Prop :=
  ∀ (context : Context) (replaced : Bool),
    replacement.inTree context replaced tree =
      replacement.plan replaced (tree.targets replacement.selects context) fun news =>
        tree.fill replacement.selects context news

variable {replacement}

/-- The loop over fields. The fields in front are finished, and the copy, if any, shows them so. -/
theorem inFields_eq_plan (context : Context) (fields : List (String × Tree))
    (rest : List (String × Tree)) (follows : ∀ field ∈ rest, replacement.Follows field.2)
    (front : List (String × Tree)) (copy : Option (List (String × Tree))) (replaced : Bool)
    (current : copy.getD fields = front ++ rest) :
    (replacement.inFields context fields front.length copy replaced rest >>= fun result =>
        pure (result.1.getD fields, result.2)) =
      replacement.plan replaced
        (Tree.targetsOf replacement.selects (fieldFrames context (.object fields) rest))
        fun news => front ++ rest.zipWith (fun field part => (field.1, part))
          (Tree.fillParts replacement.selects news
            (fieldFrames context (.object fields) rest)) := by
  induction rest generalizing front copy replaced with
  | nil => simp [inFields, fieldFrames, Tree.targetsOf, plan_nil, current]
  | cons field rest ih =>
      rcases field with ⟨key, value⟩
      have later := ih fun field mem => follows field (List.mem_cons_of_mem _ mem)
      simp only [fieldFrames_cons, Tree.targetsOf, Tree.fillParts, List.zipWith_cons_cons]
      cases container : value.isContainer with
      | false =>
          have continued := later (front ++ [(key, value)]) copy replaced (by simp [current])
          rw [List.length_append, List.length_singleton] at continued
          simp only [inFields, container, Bool.false_eq_true, if_false]
          rw [continued, Tree.targets_of_scalar container]
          simp [Tree.fill_nil]
      | true =>
          have continued (result : Tree × Bool) :=
            later (front ++ [(key, result.1)])
              (if replacement.isSame (context.field (.object fields) key) result.1 value then copy
                else some (Fields.setAt front.length result.1 (copy.getD fields)))
              result.2
              (by rw [replacement.getD_fields_step container current, List.append_cons])
          simp only [List.length_append, List.length_singleton] at continued
          simp only [inFields, container, if_true, bind_assoc]
          rw [follows (key, value) List.mem_cons_self]
          refine (replacement.plan_bind _ _ _ _ (fun new news => front ++ [(key, new)] ++
            rest.zipWith (fun field part => (field.1, part))
              (Tree.fillParts replacement.selects news
                (fieldFrames context (.object fields) rest))) continued).trans ?_
          simp

theorem inItems_eq_plan (context : Context) (items rest : List Tree)
    (follows : ∀ item ∈ rest, replacement.Follows item) (front : List Tree)
    (copy : Option (List Tree)) (replaced : Bool) (current : copy.getD items = front ++ rest) :
    (replacement.inItems context items front.length copy replaced rest >>= fun result =>
        pure (result.1.getD items, result.2)) =
      replacement.plan replaced
        (Tree.targetsOf replacement.selects (itemFrames context (.list items) front.length rest))
        fun news => front ++ Tree.fillParts replacement.selects news
          (itemFrames context (.list items) front.length rest) := by
  induction rest generalizing front copy replaced with
  | nil => simp [inItems, itemFrames, Tree.targetsOf, Tree.fillParts, plan_nil, current]
  | cons item rest ih =>
      have later := ih fun item mem => follows item (List.mem_cons_of_mem _ mem)
      simp only [itemFrames_cons, Tree.targetsOf, Tree.fillParts]
      cases container : item.isContainer with
      | false =>
          have continued := later (front ++ [item]) copy replaced (by simp [current])
          rw [List.length_append, List.length_singleton] at continued
          simp only [inItems, container, Bool.false_eq_true, if_false]
          rw [continued, Tree.targets_of_scalar container]
          simp [Tree.fill_nil]
      | true =>
          have continued (result : Tree × Bool) :=
            later (front ++ [result.1])
              (if replacement.isSame (context.element (.list items) front.length) result.1 item
                then copy else some ((copy.getD items).set front.length result.1))
              result.2
              (by rw [replacement.getD_items_step container current, List.append_cons])
          simp only [List.length_append, List.length_singleton] at continued
          simp only [inItems, container, if_true, bind_assoc]
          rw [follows item List.mem_cons_self]
          refine (replacement.plan_bind _ _ _ _ (fun new news => front ++ [new] ++
            Tree.fillParts replacement.selects news
              (itemFrames context (.list items) (front.length + 1) rest)) continued).trans ?_
          simp

theorem inContainer_eq_plan {container : Tree} (context : Context) (replaced : Bool)
    (follows : ∀ part ∈ container.parts, replacement.Follows part) :
    replacement.inContainer context replaced container =
      replacement.plan replaced (Tree.targetsOf replacement.selects (children context container))
        fun news => container.withParts
          (Tree.fillParts replacement.selects news (children context container)) := by
  cases container with
  | object fields =>
      have loop := inFields_eq_plan context fields fields
        (fun field mem => follows field.2 (List.mem_map_of_mem mem)) [] none replaced rfl
      have shaped := congrArg (· >>= fun result => pure (Tree.object result.1, result.2)) loop
      rw [← children_object, plan_map] at shaped
      simpa [inContainer, Tree.withParts] using shaped
  | list items =>
      have loop := inItems_eq_plan context items items follows [] none replaced rfl
      have shaped := congrArg (· >>= fun result => pure (Tree.list result.1, result.2)) loop
      rw [List.length_nil, ← children_list, plan_map] at shaped
      simpa [inContainer, Tree.withParts] using shaped
  | _ => simp [inContainer, children, Tree.targetsOf, plan_nil, Tree.withParts]

/--
A pass over the record of a node is planned like one over the children of the record. Equal scalars
need not be identical, but nothing changes inside a scalar.
-/
theorem inRecord_eq_plan {tree record : Tree} {kind : String} (context : Context) (replaced : Bool)
    (tagged : tree.tagged? = some (kind, record))
    (follows : ∀ part ∈ record.parts, replacement.Follows part) :
    (replacement.inContainer context replaced record >>= fun result =>
        pure (if replacement.isSame context result.1 record then tree else .node kind result.1,
          result.2)) =
      replacement.plan replaced (Tree.targetsOf replacement.selects (children context record))
        fun news => Tree.node kind (record.withParts
          (Tree.fillParts replacement.selects news (children context record))) := by
  have whole := (Tree.tagged?_eq_some_iff.mp tagged).2
  rw [← replacement.plan_map, ← inContainer_eq_plan context replaced follows]
  cases container : record.isContainer with
  | false => cases record <;> simp_all [Tree.isContainer, inContainer]
  | true =>
      congr 1
      funext result
      split
      · next same => rw [whole, replacement.eq_of_isSame container same]
      · rfl

/-- A replacement asks for new nodes for the targets, and then fills them in. -/
theorem inTree_eq_plan (tree : Tree) : replacement.Follows tree := by
  induction tree using Tree.contentInduction with
  | step tree ih =>
      intro context replaced
      rw [inTree]
      cases done : replacement.isDone replaced with
      | true => simp [replacement.plan_of_isDone done, Tree.fill_nil]
      | false =>
          simp only [Bool.false_eq_true, if_false]
          split
          · next kind record tagged =>
            have target := Tree.target?_of_tagged? replacement.selects context tagged
            split
            · next selected =>
              have found := target.trans (if_pos selected)
              rw [Tree.targets_of_target? found, replacement.plan_singleton done]
              simp [Tree.fill_of_target? _ found]
            · next rejected =>
              have missing := target.trans (if_neg rejected)
              rw [Tree.content_of_tagged? tagged] at ih
              rw [Tree.targets_of_none missing, Tree.content_of_tagged? tagged]
              simp only [Tree.fill_of_none _ missing, Tree.content_of_tagged? tagged,
                Tree.withContent_of_tagged? tagged]
              exact inRecord_eq_plan context replaced tagged ih
          · next untagged =>
            have missing := Tree.target?_of_untagged replacement.selects context untagged
            rw [Tree.content_of_untagged untagged] at ih
            rw [Tree.targets_of_none missing, Tree.content_of_untagged untagged]
            simp only [Tree.fill_of_none _ missing, Tree.content_of_untagged untagged,
              Tree.withContent_of_untagged untagged]
            exact inContainer_eq_plan context replaced ih

/-- What is left of the tree are the new nodes for those targets that are asked about. -/
theorem applyTo_eq_fill_asked (replacement : Replacement m) (tree : Tree) :
    replacement.applyTo tree =
      (fun news => tree.fill replacement.selects .root news) <$>
        (replacement.asked false (tree.targets replacement.selects .root)).mapM
          replacement.replace := by
  rw [applyTo, inTree_eq_plan tree]
  simp [plan]

/-- A replacement that does not stop asks for a new node for every target, and fills them all in. -/
theorem applyTo_eq_fill (replacement : Replacement m) (everywhere : replacement.firstOnly = false)
    (tree : Tree) :
    replacement.applyTo tree =
      (fun news => tree.fill replacement.selects .root news) <$>
        (tree.targets replacement.selects .root).mapM replacement.replace := by
  rw [applyTo_eq_fill_asked]
  simp [asked, isDone, everywhere]

end Replacement

end SqlTree
