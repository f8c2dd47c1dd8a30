import ReadmeAudit.Proofs.Markdown.Calls

/-!
# The protocol of a walk

The answers of a visitor decide where a walk goes. A node is visited if the visitor went on at every
node above it and has not ended the walk before. `Protocol` puts this together with the order of the
calls.

Whether a node is visited is decided among the siblings on the way to it, one level after the other.
`Leads` therefore splits the way to a node into the part that is done and the rest. The calls below
siblings are those below the first and those below the others. A node below the first is not
affected by the others. A node below the others is affected by the first only if the walk ends
there.

Two walks follow from their protocol or from the places they gather: `Node.find` gives the outermost
nodes with a property, and `Node.plainText` the text of all nodes that have one.
-/

namespace ReadmeAudit.Markdown

variable {σ : Type}

/-! ### Which nodes are visited -/

/-- A call with a property is among calls. -/
def Has (calls : List (Call σ)) (p : Address → Step → Prop) : Prop :=
  ∃ call ∈ calls, p call.address call.answer

@[simp]
theorem has_cons {call : Call σ} {calls : List (Call σ)} {p : Address → Step → Prop} :
  Has (call :: calls) p ↔ p call.address call.answer ∨ Has calls p
  := by
  simp [Has]

@[simp]
theorem has_append {calls others : List (Call σ)} {p : Address → Step → Prop} :
  Has (calls ++ others) p ↔ Has calls p ∨ Has others p
  := by
  simp [Has, or_and_right, exists_or]

@[simp]
theorem has_map_under {index : Nat} {calls : List (Call σ)} {p : Address → Step → Prop} :
  Has (calls.map (Call.under index)) p ↔ Has calls fun address => p (index :: address)
  := by
  simp [Has, Call.under]

/-- The node at an address is visited. -/
def Visits (calls : List (Call σ)) (address : Address) : Prop :=
  Has calls fun other _ => other = address

/-- The node at an address is visited, and the walk goes on below it. -/
def Enters (calls : List (Call σ)) (address : Address) : Prop :=
  Has calls fun other answer => other = address ∧ answer.goesOn = true

/-- The walk is ended before it comes to an address. -/
def StopsBefore (calls : List (Call σ)) (address : Address) : Prop :=
  Has calls fun other answer => other.Precedes address ∧ answer = .stop

/-- Nothing keeps a walk from going the rest of the way from one address to another: it goes on
below each node on the way, and is not ended before. -/
structure Leads (calls : List (Call σ)) (start rest : Address) : Prop where
  /-- The walk goes on below the nodes on the way. -/
  enters : ∀ upper, upper <+: rest → upper ≠ rest → Enters calls (start ++ upper)
  /-- The walk is not ended before. -/
  not_stopsBefore : ¬ StopsBefore calls (start ++ rest)

@[simp]
theorem leads_nil_iff {calls : List (Call σ)} {start : Address} :
  Leads calls start [] ↔ ¬ StopsBefore calls start
  := by
  constructor
  · intro h
    simpa using h.not_stopsBefore
  · intro h
    constructor
    · intro upper hupper hne
      apply absurd (List.prefix_nil.mp hupper) hne
    · simpa using h

@[simp]
theorem leads_cons_iff {calls : List (Call σ)} {start rest : Address} {index : Nat} :
  Leads calls start (index :: rest) ↔ Enters calls start ∧ Leads calls (start ++ [index]) rest
  := by
  constructor
  · rintro ⟨henters, hstops⟩
    constructor
    · simpa using henters [] List.nil_prefix (List.cons_ne_nil index rest).symm
    · constructor
      · intro upper hupper hne
        rw [List.append_assoc]
        apply henters (index :: upper)
        · apply List.cons_prefix_cons.mpr ⟨rfl, hupper⟩
        · intro heq
          apply hne (List.cons.inj heq).2
      · rw [List.append_assoc]
        apply hstops
  · rintro ⟨hstart, henters, hstops⟩
    constructor
    · intro upper hupper hne
      rcases List.prefix_cons_iff.mp hupper with rfl | ⟨upper, rfl, hrest⟩
      · simpa using hstart
      · have hbelow := henters upper hrest (by rintro rfl; apply hne rfl)
        rwa [List.append_assoc] at hbelow
    · rwa [List.append_assoc] at hstops

/-- Leading somewhere depends only on which nodes are entered and whether the walk is ended. -/
theorem leads_congr {calls calls' : List (Call σ)} {start start' rest : Address}
    (henters : ∀ upper, Enters calls (start ++ upper) ↔ Enters calls' (start' ++ upper))
    (hstops : StopsBefore calls (start ++ rest) ↔ StopsBefore calls' (start' ++ rest)) :
  Leads calls start rest ↔ Leads calls' start' rest
  := by
  constructor
  · rintro ⟨h, hbefore⟩
    constructor
    · intro upper hupper hne
      apply (henters upper).mp (h upper hupper hne)
    · apply mt hstops.mpr hbefore
  · rintro ⟨h, hbefore⟩
    constructor
    · intro upper hupper hne
      apply (henters upper).mpr (h upper hupper hne)
    · apply mt hstops.mp hbefore

section

variable {calls others : List (Call σ)} {index position : Nat} {rest : Address}

/-- Calls below later siblings do not have a property that excludes their positions. -/
theorem not_has_of_later {p : Address → Step → Prop}
    (h : ∀ call ∈ others, ∃ position rest, call.address = position :: rest ∧ index < position)
    (hp : ∀ position rest answer, index < position → ¬ p (position :: rest) answer) :
  ¬ Has others p
  := by
  rintro ⟨call, hcall, hpcall⟩
  obtain ⟨position, rest, heq, hlt⟩ := h call hcall
  rw [heq] at hpcall
  apply hp position rest call.answer hlt hpcall

/-- What is visited below a node where the walk goes on is decided among the children. -/
theorem visits_iff_leads_of_below {call : Call σ} (haddress : call.address = [])
    (hgoes : call.answer.goesOn = true)
    (hbelow : Visits calls (index :: rest) ↔ Leads calls [index] rest) :
  Visits (call :: calls) (index :: rest)
    ↔ Enters (call :: calls) [] ∧ Leads (call :: calls) [index] rest
  := by
  have hvisits : Visits (call :: calls) (index :: rest) ↔ Visits calls (index :: rest) := by
    simp [Visits, haddress]
  have hleads : Leads (call :: calls) [index] rest ↔ Leads calls [index] rest := by
    apply leads_congr
    · intro upper
      simp [Enters, haddress]
    · rw [StopsBefore, has_cons, or_iff_right]
      · rfl
      · rintro ⟨-, hstop⟩
        rw [hstop] at hgoes
        cases hgoes
  rw [hvisits, hleads, hbelow, and_iff_right]
  use call, List.mem_cons_self

/-- What is visited below the first of some siblings is decided there. -/
theorem visits_iff_leads_of_first
    (h : ∀ call ∈ others, ∃ position rest, call.address = position :: rest ∧ index < position)
    (hfirst : Visits calls rest ↔ Leads calls [] rest) :
  Visits (calls.map (Call.under index) ++ others) (index :: rest)
    ↔ Leads (calls.map (Call.under index) ++ others) [index] rest
  := by
  have hvisits : Visits (calls.map (Call.under index) ++ others) (index :: rest)
      ↔ Visits calls rest := by
    rw [Visits, has_append, has_map_under, or_iff_left]
    · simp [Visits]
    · apply not_has_of_later h
      rintro position rest answer hlt ⟨⟩
      apply Nat.lt_irrefl _ hlt
  rw [hvisits, hfirst]
  apply leads_congr
  · intro upper
    rw [Enters, Enters, has_append, has_map_under, or_iff_left]
    · simp
    · apply not_has_of_later h
      rintro position rest answer hlt ⟨⟨⟩, -⟩
      apply Nat.lt_irrefl _ hlt
  · rw [StopsBefore, StopsBefore, has_append, has_map_under, or_iff_left]
    · simp [Address.Precedes.cons_cons_iff]
    · apply not_has_of_later h
      rintro position rest answer hlt ⟨hprecedes, -⟩
      rcases Address.Precedes.cons_cons_iff.mp hprecedes with hlt' | ⟨rfl, -⟩
      · apply Nat.lt_asymm hlt hlt'
      · apply Nat.lt_irrefl _ hlt

/-- What is visited below the later of some siblings is decided there, unless the walk is ended. -/
theorem visits_iff_leads_of_later (hlt : index < position)
    (hlater : Call.ending calls = .finished →
      (Visits others (position :: rest) ↔ Leads others [position] rest))
    (hstopped : Call.ending calls = .stopped → others = []) :
  Visits (calls.map (Call.under index) ++ others) (position :: rest)
    ↔ Leads (calls.map (Call.under index) ++ others) [position] rest
  := by
  have hother : ∀ (p : Address → Step → Prop) (upper : Address),
      ¬ Has (calls.map (Call.under index)) fun other answer =>
        other = position :: upper ∧ p other answer := by
    rintro p upper ⟨call, hcall, heq, -⟩
    obtain ⟨found, -, rfl⟩ := List.mem_map.mp hcall
    apply Nat.ne_of_lt hlt (List.cons.inj heq).1
  have hvisits : Visits (calls.map (Call.under index) ++ others) (position :: rest)
      ↔ Visits others (position :: rest) := by
    have hnot := hother (fun _ _ => True) rest
    simp only [and_true] at hnot
    rw [Visits, has_append, or_iff_right hnot]
    rfl
  rw [hvisits]
  cases hending : Call.ending calls with
  | stopped =>
      obtain ⟨call, hcall, hstop⟩ := Call.ending_eq_stopped_iff.mp hending
      rw [hstopped hending]
      constructor
      · rintro ⟨call, ⟨⟩, -⟩
      · rintro ⟨-, hbefore⟩
        apply absurd _ hbefore
        use call.under index, List.mem_append_left _ (List.mem_map_of_mem hcall)
        use Address.Precedes.cons_cons_iff.mpr (Or.inl hlt), hstop
  | finished =>
      rw [hlater hending]
      apply leads_congr
      · intro upper
        rw [Enters, Enters, has_append, or_iff_right]
        apply hother (fun _ answer => answer.goesOn = true)
      · rw [StopsBefore, StopsBefore, has_append, or_iff_right]
        rintro ⟨call, hcall, -, hstop⟩
        obtain ⟨found, hfound, rfl⟩ := List.mem_map.mp hcall
        rw [Call.ending_eq_stopped_iff.mpr ⟨found, hfound, hstop⟩] at hending
        cases hending

end

/-! ### The induction over the tree -/

mutual

/-- A node is visited exactly if the walk goes on below each node above it and is not ended
before. -/
theorem visits_callsFrom_iff (visit : Visitor σ) (after : List Node) :
    ∀ (node : Node) (state : σ) (address : Address) (found : Place),
      Place.at? ⟨node, after⟩ address = some found →
        (Visits (callsFrom visit after node state) address
          ↔ Leads (callsFrom visit after node state) [] address)
  | .mk kind children, state, [], found => by
      intro _
      rw [callsFrom, Visits, has_cons, leads_nil_iff]
      apply iff_of_true
      · apply Or.inl rfl
      · rintro ⟨call, -, hprecedes, -⟩
        apply List.not_lex_nil hprecedes
  | .mk kind children, state, index :: rest, found => by
      intro hat
      let place : Place := ⟨.mk kind children, after⟩
      rcases hvisit : visit place state with ⟨answer, next⟩
      rw [leads_cons_iff, callsFrom, hvisit]
      dsimp only
      by_cases hgoes : answer.goesOn = true
      · rw [if_pos hgoes]
        apply visits_iff_leads_of_below rfl hgoes
        apply visits_callsAmong_iff visit 0 children _ place index rest found rfl
          (Nat.zero_le index) hat
      · rw [if_neg hgoes]
        apply iff_of_false
        · rintro ⟨call, hcall, heq⟩
          obtain rfl := List.mem_singleton.mp hcall
          cases heq
        · rintro ⟨⟨call, hcall, -, hanswer⟩, -⟩
          obtain rfl := List.mem_singleton.mp hcall
          apply hgoes hanswer

theorem visits_callsAmong_iff (visit : Visitor σ) (index : Nat) :
    ∀ (nodes : List Node) (state : σ) (parent : Place) (position : Nat) (rest : Address)
      (found : Place), parent.node.children.drop index = nodes → index ≤ position →
        parent.at? (position :: rest) = some found →
          (Visits (callsAmong visit index nodes state) (position :: rest)
            ↔ Leads (callsAmong visit index nodes state) [position] rest)
  | [], state, parent, position, rest, found => by
      intro hnodes hle hat
      rw [Place.at?, Option.bind_eq_some_iff] at hat
      obtain ⟨child, hchild, -⟩ := hat
      rw [Place.child?_eq_some_iff] at hchild
      have hlong := List.drop_eq_nil_iff.mp hnodes
      rw [List.drop_eq_nil_iff.mpr (hlong.trans hle)] at hchild
      cases hchild
  | node :: others, state, parent, position, rest, found => by
      intro hnodes hle hat
      rw [callsAmong]
      rcases Nat.eq_or_lt_of_le hle with rfl | hlt
      · have hchild : parent.child? index = some ⟨node, others⟩ :=
          Place.child?_eq_some_iff.mpr hnodes
        rw [Place.at?, hchild] at hat
        apply visits_iff_leads_of_first
        · intro call hcall
          split at hcall
          · cases hcall
          · apply exists_eq_cons_of_mem_callsAmong hcall
        · apply visits_callsFrom_iff visit others node state rest found hat
      · apply visits_iff_leads_of_later hlt
        · intro hending
          rw [hending]
          apply visits_callsAmong_iff visit (index + 1) others _ parent position rest found _ hlt
            hat
          rw [← List.drop_drop, hnodes]
          rfl
        · intro hending
          rw [hending]

end

/-! ### The protocol -/

/-- The calls of a visitor from a place on are those that the answers ask for. -/
structure Protocol (start : Place) (visit : Visitor σ) (state : σ) (calls : List (Call σ)) :
    Prop where
  /-- Each call is made in the state that the one before has left. -/
  follow : Follow visit state calls
  /-- A call is made at the place that has its address. -/
  at?_eq : ∀ call ∈ calls, start.at? call.address = some call.place
  /-- The calls are made in the order of the document, and none after the walk is ended. -/
  ordered : calls.Pairwise Call.Before
  /-- A node is visited exactly if the walk goes on below each node above it and is not ended
  before. -/
  visits_iff : ∀ address found, start.at? address = some found →
    (Visits calls address
      ↔ (∀ upper, upper <+: address → upper ≠ address → Enters calls upper)
        ∧ ¬ StopsBefore calls address)

/-- The calls that a walk over a node makes obey the protocol. -/
theorem callsFrom_protocol (visit : Visitor σ) (after : List Node) (node : Node) (state : σ) :
  Protocol ⟨node, after⟩ visit state (callsFrom visit after node state)
  := by
  constructor
  · apply callsFrom_follow
  · apply callsFrom_at?
  · apply callsFrom_pairwise
  · intro address found hat
    rw [visits_callsFrom_iff visit after node state address found hat]
    constructor
    · rintro ⟨henters, hstops⟩
      use henters, hstops
    · rintro ⟨henters, hstops⟩
      use henters, hstops

/-- If every call goes on, then every node is visited. -/
theorem Protocol.visits {start found : Place} {visit : Visitor σ} {state : σ}
    {calls : List (Call σ)} (h : Protocol start visit state calls)
    (hgoes : ∀ call ∈ calls, call.answer.goesOn = true) {address : Address}
    (hat : start.at? address = some found) :
  Visits calls address
  := by
  -- The nodes above have shorter addresses, but they are prefixes and not tails of the address.
  induction hlength : address.length using Nat.strong_induction_on generalizing address found with
  | _ length ih =>
      rw [h.visits_iff address found hat]
      constructor
      · rintro upper ⟨rest, rfl⟩ hne
        rw [Place.at?_append, Option.bind_eq_some_iff] at hat
        obtain ⟨between, hbetween, -⟩ := hat
        have hlt : upper.length < length := by
          have hrest : rest ≠ [] := by
            rintro rfl
            apply hne (List.append_nil upper).symm
          have hpositive := List.length_pos_of_ne_nil hrest
          rw [← hlength, List.length_append]
          omega
        obtain ⟨call, hcall, heq⟩ := ih upper.length hlt hbetween rfl
        use call, hcall, heq, hgoes call hcall
      · rintro ⟨call, hcall, -, hstop⟩
        have hanswer := hgoes call hcall
        rw [hstop] at hanswer
        cases hanswer

/-! ### Listings -/

/-- Items with addresses are the ones that stand at addresses, in the order of the document. -/
structure InOrder {α : Type} (items : List (Address × α)) (stands : Address → α → Prop) :
    Prop where
  /-- The addresses increase. -/
  sorted : (items.map Prod.fst).Pairwise Address.Precedes
  /-- The items are those that stand somewhere. -/
  mem_iff : ∀ address item, (address, item) ∈ items ↔ stands address item

/-- The outermost nodes with a property are found in the order of the document. -/
theorem Node.gatheredFrom_inOrder (root : Node) (p : Kind → Bool) :
  InOrder (gatheredFrom p (fun _ => true) [] root) (Place.Outermost p ⟨root, []⟩)
  := by
  constructor
  · apply gatheredFrom_sorted
  · intro address found
    simp

/-- The content of a node that has text of its own. -/
def Kind.content? : Kind → Option String
  | text content => some content
  | escaped content => some content
  | codeSpan content => some content
  | _ => none

theorem Kind.ownText_eq (kind : Kind) :
  kind.ownText = kind.content?.getD ""
  := by
  cases kind with
  | _ => rfl

/-- The calls of the visitor that collects text put the texts in the order of the calls, and none of
them keeps the walk from going on. -/
theorem follow_collectText {state : List String} {calls : List (Call (List String))}
    (h : Follow Node.collectText state calls) :
  Call.stateAfter state calls
      = (calls.map fun call => call.place.node.kind.ownText).reverse ++ state
    ∧ ∀ call ∈ calls, call.answer.goesOn = true
  := by
  induction calls generalizing state with
  | nil => simp [Call.stateAfter]
  | cons call calls ih =>
      obtain ⟨-, hvisit, hfollow⟩ := h
      obtain ⟨hanswer, hnext⟩ := Prod.mk.inj hvisit
      obtain ⟨hstate, hgoes⟩ := ih hfollow
      constructor
      · rw [Call.stateAfter, hstate, ← hnext, List.map_cons, List.reverse_cons, List.append_assoc]
        rfl
      · rw [List.forall_mem_cons, ← hanswer]
        use rfl, hgoes

/-- The contents of the nodes that calls visit. -/
def contents (calls : List (Call σ)) : List (Address × String) :=
  calls.filterMap fun call => call.place.node.kind.content?.map (call.address, ·)

theorem join_contents (calls : List (Call σ)) :
  String.join ((contents calls).map Prod.snd)
    = String.join (calls.map fun call => call.place.node.kind.ownText)
  := by
  induction calls with
  | nil => rfl
  | cons call calls ih =>
      rw [contents, List.filterMap_cons, List.map_cons, String.join_cons, ← ih, Kind.ownText_eq]
      cases call.place.node.kind.content? with
      | none => simp [contents]
      | some content => simp [contents]

/-- If every call goes on, then the contents are those of all nodes. -/
theorem Protocol.contents_inOrder {start : Place} {visit : Visitor σ} {state : σ}
    {calls : List (Call σ)} (h : Protocol start visit state calls)
    (hgoes : ∀ call ∈ calls, call.answer.goesOn = true) :
  InOrder (contents calls) fun address content =>
    ∃ found, start.at? address = some found ∧ found.node.kind.content? = some content
  := by
  constructor
  · rw [List.pairwise_map, contents]
    apply h.ordered.filterMap
    intro first second hbefore text htext text' htext'
    obtain ⟨-, -, rfl⟩ := Option.map_eq_some_iff.mp htext
    obtain ⟨-, -, rfl⟩ := Option.map_eq_some_iff.mp htext'
    apply hbefore.1
  · intro address content
    rw [contents, List.mem_filterMap]
    constructor
    · rintro ⟨call, hcall, hcontent⟩
      obtain ⟨content, hkind, heq⟩ := Option.map_eq_some_iff.mp hcontent
      obtain ⟨rfl, rfl⟩ := Prod.mk.inj heq
      use call.place, h.at?_eq call hcall
    · rintro ⟨found, hat, hcontent⟩
      obtain ⟨call, hcall, rfl⟩ := h.visits hgoes hat
      rw [h.at?_eq call hcall] at hat
      obtain rfl := Option.some.inj hat
      use call, hcall
      rw [hcontent]
      rfl

/-- A walk calls its visitor as the answers ask. What is found are therefore the outermost nodes
with a property, and the text of a node is that of all nodes at or below it, in the order of the
document. -/
theorem Node.walk_obeys_protocol (root : Node) :
  (∀ {σ : Type} (visit : Visitor σ) (state : σ),
      ∃ calls, Makes (fun visit => root.walk visit) visit state calls
        ∧ Protocol ⟨root, []⟩ visit state calls)
    ∧ (∀ p : Kind → Bool, ∃ found : List (Address × Place),
      InOrder found (Place.Outermost p ⟨root, []⟩) ∧ root.find p = found.map Prod.snd)
    ∧ ∃ texts : List (Address × String),
      InOrder texts (fun address content => ∃ found : Place,
        Place.at? ⟨root, []⟩ address = some found ∧ found.node.kind.content? = some content)
      ∧ root.plainText = String.join (texts.map Prod.snd)
  := by
  refine ⟨?_, ?_, ?_⟩
  · intro σ visit state
    use callsFrom visit [] root state, walkNode_makes visit [] root state
    apply callsFrom_protocol
  · intro p
    use gatheredFrom p (fun _ => true) [] root, root.gatheredFrom_inOrder p, root.find_eq p
  · let calls := callsFrom Node.collectText [] root []
    have hprotocol : Protocol ⟨root, []⟩ Node.collectText [] calls := callsFrom_protocol _ _ _ _
    obtain ⟨hstate, hgoes⟩ := follow_collectText hprotocol.follow
    use contents calls, hprotocol.contents_inOrder hgoes
    rw [Node.plainText, Node.walk, (walkNode_makes Node.collectText [] root []).eq, hstate,
      List.append_nil, List.reverse_reverse, join_contents]

end ReadmeAudit.Markdown
