/-
# Documents that were built

An edit puts one node in, below a node that is there, and changes nothing else but the list of that
node's children. So nodes have the numbers of the edits that put them in, what a node is and where it
stands is settled once and for all, and the lists of children never disagree with the parents that
nodes name. Children stand in the order in which they were put in, but for heads, which go to the
front.

* `Document.Placed` says of edits that each finds the parent that it names; `Document.Placed.made` says
  which node it puts in.
* `Document.Rooted.atOrBelow_root` says that no node is cut off from the document element, and
  `Document.Placed.exists_headsFirst` in which order that element lists its children.
* `Document.Grown` says what is known of the document that such edits build; `Document.grown_build`
  says that they do build one, and that further edits leave its nodes as they are.
-/
import TreeText.Proofs.Document.Kin

namespace TreeText.Document

/-! ## Edits -/

namespace Edit

/-- The node below which an edit puts a node in. -/
def parent : Edit → Nat
  | .element parent _ _ => parent
  | .text parent _ => parent
  | .other parent => parent
  | .head => root

/-- What an edit puts in. -/
def content : Edit → Content
  | .element _ tag dataset => .element tag dataset
  | .text _ written => .text written
  | .other _ => .other
  | .head => .element "head" .empty

end Edit

/-- Edits differ in what they put in, and in where: heads go to the front. -/
theorem edit_eq_insert (doc : Document) (edit : Edit) :
    doc.edit edit = doc.insert (edit = .head) edit.parent edit.content := by
  cases edit <;> rfl

/-- Edits that find the parents that they name: each puts its node below one that is there when its
turn comes. -/
inductive Placed : List Edit → Prop where
  | nil : Placed []
  | concat {edits : List Edit} {last : Edit} (hedits : Placed edits)
      (hparent : last.parent < (build edits).size) : Placed (edits ++ [last])

/-- What is found behind some entries is the last entry, or was found before. -/
theorem getElem?_concat_eq_some_iff {α : Type} {list : List α} {last entry : α} {i : Nat} :
    (list ++ [last])[i]? = some entry ↔
      list[i]? = some entry ∨ i = list.length ∧ entry = last := by
  rcases Nat.lt_trichotomy i list.length with hlt | rfl | hgt
  · rw [List.getElem?_append_left hlt]
    simp [Nat.ne_of_lt hlt]
  · simp [eq_comm]
  · have hnone : list[i]? = none := List.getElem?_eq_none (by omega)
    rw [List.getElem?_eq_none (by simp; omega), hnone]
    simp [Nat.ne_of_gt hgt]

/-! ## Numbers -/

/-- An insertion takes no node away. -/
theorem size_le_insert (doc : Document) (atFront : Bool) (parent : Nat) (content : Content) :
    doc.size ≤ (doc.insert atFront parent content).size := by
  by_cases hp : parent < doc.size
  · rw [size_insert hp]
    omega
  · have hsame : doc.insert atFront parent content = doc := insert_of_size_le (Nat.not_lt.1 hp) _ _
    exact Nat.le_of_eq (congrArg size hsame.symm)

/-- What is there stays there with further edits, and neither its content nor its parent changes. -/
theorem build_append_of_lt (edits more : List Edit) {node : Nat} (h : node < (build edits).size) :
    node < (build (edits ++ more)).size ∧
      (build (edits ++ more)).content? node = (build edits).content? node ∧
      (build (edits ++ more)).parent? node = (build edits).parent? node := by
  induction more using List.reverseRecOn with
  | nil =>
    rw [List.append_nil]
    exact ⟨h, rfl, rfl⟩
  | append_singleton more last ih =>
    obtain ⟨hlt, hcontent, hparent⟩ := ih
    rw [← List.append_assoc, build_concat, edit_eq_insert, content?_insert_of_lt hlt,
      parent?_insert_of_lt hlt]
    exact ⟨Nat.lt_of_lt_of_le hlt (size_le_insert _ _ _ _), hcontent, hparent⟩

/-- The page has two nodes to begin with, and each edit puts in one. -/
theorem Placed.size_build {edits : List Edit} (h : Placed edits) :
    (build edits).size = edits.length + 2 := by
  induction h with
  | nil => rfl
  | concat _ hparent ih =>
    rw [build_concat, edit_eq_insert, size_insert hparent, ih, List.length_append]
    rfl

/-- Each edit puts in the node with the next number, with the content and the parent that it names. -/
theorem Placed.made {edits : List Edit} (h : Placed edits) {i : Nat} {edit : Edit}
    (hedit : edits[i]? = some edit) :
    (build edits).content? (i + 2) = some edit.content ∧
      (build edits).parent? (i + 2) = some edit.parent := by
  induction h with
  | nil => simp at hedit
  | @concat edits last hedits hparent ih =>
    -- The last edit puts in the last node; what the edits before it put in is there already.
    have hsize : (build edits).size = edits.length + 2 := hedits.size_build
    rw [build_concat, edit_eq_insert, content?_insert, parent?_insert]
    rcases getElem?_concat_eq_some_iff.1 hedit with hold | ⟨rfl, rfl⟩
    · have hlt : i < edits.length := (List.getElem?_eq_some_iff.1 hold).1
      rw [if_neg (by omega), if_neg (by omega)]
      exact ih hold
    · have hnew : edits.length + 2 = (build edits).size ∧ edit.parent < (build edits).size :=
        ⟨hsize.symm, hparent⟩
      rw [if_pos hnew, if_pos hnew]
      exact ⟨rfl, rfl⟩

/-! ## Ways from the document element -/

/-- A node that names a parent is listed by it. -/
def Listed (doc : Document) : Prop :=
  ∀ node parent, doc.parent? node = some parent → node ∈ doc.children parent

/-- Every node but the document element names a parent. -/
def Rooted (doc : Document) : Prop :=
  ∀ node < doc.size, node ≠ root → ∃ parent, doc.parent? node = some parent

/-- A node that is put in is listed by its parent. -/
theorem Listed.insert {doc : Document} (h : doc.Listed) (atFront : Bool) (parent : Nat)
    (content : Content) : (doc.insert atFront parent content).Listed := by
  intro node above hparent
  rw [parent?_insert] at hparent
  rw [children_insert]
  by_cases hnew : node = doc.size ∧ parent < doc.size
  · rw [if_pos hnew] at hparent
    obtain rfl : parent = above := Option.some.inj hparent
    rw [if_pos ⟨rfl, hnew.2⟩, hnew.1]
    cases atFront <;> simp
  · rw [if_neg hnew] at hparent
    have hold : node ∈ doc.children above := h node above hparent
    split
    · cases atFront <;> simp [hold]
    · exact hold

/-- A node that is put in names a parent. -/
theorem Rooted.insert {doc : Document} (h : doc.Rooted) (atFront : Bool) (parent : Nat)
    (content : Content) : (doc.insert atFront parent content).Rooted := by
  intro node hlt hne
  rw [parent?_insert]
  by_cases hnew : node = doc.size ∧ parent < doc.size
  · exact ⟨parent, if_pos hnew⟩
  · rw [if_neg hnew]
    refine h node ?_ hne
    by_cases hp : parent < doc.size
    · rw [size_insert hp] at hlt
      omega
    · rwa [insert_of_size_le (Nat.not_lt.1 hp)] at hlt

/-- In a document that was built, every node but the document element names a parent, which lists
it. -/
theorem listed_and_rooted_build (edits : List Edit) : (build edits).Listed ∧ (build edits).Rooted := by
  have hsingle : (single "html" .empty).Listed ∧ (single "html" .empty).Rooted := by
    constructor
    · intro node parent hparent
      have hnone : (single "html" .empty).parent? node = none := by cases node <;> rfl
      rw [hnone] at hparent
      cases hparent
    · intro node hlt hne
      exact absurd (Nat.lt_one_iff.1 hlt) hne
  have hinsert : ∀ doc : Document, (doc.Listed ∧ doc.Rooted) → ∀ atFront parent content,
      (doc.insert atFront parent content).Listed ∧ (doc.insert atFront parent content).Rooted :=
    fun doc h atFront parent content =>
      ⟨h.1.insert atFront parent content, h.2.insert atFront parent content⟩
  have hblank : blank.Listed ∧ blank.Rooted := hinsert _ hsingle false root _
  exact build_induction hblank hinsert edits

/-- Where parents list those that name them, every node lies at or below the document element. -/
theorem Rooted.atOrBelow_root {doc : Document} (h : doc.Rooted) (hlisted : doc.Listed) {node : Nat}
    (hlt : node < doc.size) : doc.AtOrBelow root node := by
  induction node using Nat.strongRecOn with
  | ind node ih =>
    by_cases hroot : node = root
    · rw [hroot]
      exact Relation.ReflTransGen.refl
    · -- The way to the parent goes on to the node.
      obtain ⟨parent, hparent⟩ := h node hlt hroot
      have hsmaller : parent < node := parent?_lt hparent
      have habove : doc.AtOrBelow root parent := ih parent hsmaller (by omega)
      exact habove.tail (hlisted node parent hparent)

/-! ## Order among siblings -/

/-- A node is a head if an edit put it in as one. -/
def IsHead (edits : List Edit) (node : Nat) : Prop :=
  ∃ i, node = i + 2 ∧ edits[i]? = some .head

/-- With one more edit, the heads are those from before, and the last node if it is put in as one. -/
theorem isHead_concat_iff {edits : List Edit} {last : Edit} {node : Nat} :
    IsHead (edits ++ [last]) node ↔
      IsHead edits node ∨ node = edits.length + 2 ∧ last = .head := by
  constructor
  · rintro ⟨i, hnode, hedit⟩
    rcases getElem?_concat_eq_some_iff.1 hedit with hold | ⟨rfl, hlast⟩
    · exact Or.inl ⟨i, hnode, hold⟩
    · exact Or.inr ⟨hnode, hlast.symm⟩
  · rintro (⟨i, hnode, hold⟩ | ⟨hnode, hlast⟩)
    · exact ⟨i, hnode, getElem?_concat_eq_some_iff.2 (Or.inl hold)⟩
    · exact ⟨edits.length, hnode, getElem?_concat_eq_some_iff.2 (Or.inr ⟨rfl, hlast.symm⟩)⟩

/-- The document element of the empty page lists the body, and the body lists nothing. -/
theorem children_blank (node : Nat) : blank.children node = if node = root then [1] else [] := by
  rcases node with _ | _ | node <;> rfl

/-- A node lists no number that is not there. -/
theorem lt_size_of_mem_children_build (edits : List Edit) {node child : Nat}
    (h : child ∈ (build edits).children node) : child < (build edits).size :=
  lt_size_of_parent? (linked_build edits node child h)

/-- A larger number is in order behind numbers that are. -/
theorem pairwise_concat_of_lt {children : List Nat} {number : Nat}
    (h : children.Pairwise (· < ·)) (hlt : ∀ child ∈ children, child < number) :
    (children ++ [number]).Pairwise (· < ·) := by
  rw [List.pairwise_append]
  refine ⟨h, List.pairwise_singleton _ _, ?_⟩
  intro child hchild last hlast
  rw [List.mem_singleton.1 hlast]
  exact hlt child hchild

/-- Below all nodes but the document element, children stand in the order of their numbers. -/
theorem pairwise_children_build (edits : List Edit) {node : Nat} (hne : node ≠ root) :
    ((build edits).children node).Pairwise (· < ·) := by
  induction edits using List.reverseRecOn with
  | nil =>
    have hnone : (build []).children node = [] := by
      show blank.children node = []
      rw [children_blank, if_neg hne]
    rw [hnone]
    exact List.Pairwise.nil
  | append_singleton edits last ih =>
    rw [build_concat, edit_eq_insert, children_insert]
    split
    · next hparent =>
      -- A head would have been put in below the document element.
      have hlast : last ≠ .head := by
        rintro rfl
        exact hne hparent.1
      simp only [hlast, decide_false, Bool.false_eq_true, if_false]
      exact pairwise_concat_of_lt ih fun child => lt_size_of_mem_children_build edits
    · exact ih

/-- Heads, the latest first, and nodes that are no heads, in the order of their numbers. -/
structure HeadsFirst (edits : List Edit) (heads others : List Nat) : Prop where
  isHead : ∀ child ∈ heads, IsHead edits child
  notHead : ∀ child ∈ others, ¬IsHead edits child
  latest : heads.Pairwise (· > ·)
  ordered : others.Pairwise (· < ·)

namespace HeadsFirst

variable {edits : List Edit} {last : Edit} {heads others : List Nat}

/-- One more edit makes no head of a node that is there. -/
theorem keep (h : HeadsFirst edits heads others)
    (hlt : ∀ child ∈ others, child < edits.length + 2) :
    HeadsFirst (edits ++ [last]) heads others where
  isHead child hchild := isHead_concat_iff.2 (Or.inl (h.isHead child hchild))
  notHead := by
    intro child hchild hhead
    have hsmaller := hlt child hchild
    rcases isHead_concat_iff.1 hhead with hold | ⟨hnew, -⟩
    · exact h.notHead child hchild hold
    · omega
  latest := h.latest
  ordered := h.ordered

/-- A head that is put in comes first. -/
theorem consHead (h : HeadsFirst (edits ++ [.head]) heads others)
    (hlt : ∀ child ∈ heads, child < edits.length + 2) :
    HeadsFirst (edits ++ [.head]) ((edits.length + 2) :: heads) others where
  isHead := by
    rw [List.forall_mem_cons]
    exact ⟨isHead_concat_iff.2 (Or.inr ⟨rfl, rfl⟩), h.isHead⟩
  notHead := h.notHead
  latest := List.pairwise_cons.2 ⟨hlt, h.latest⟩
  ordered := h.ordered

/-- Any other node that is put in comes last. -/
theorem concatOther (h : HeadsFirst (edits ++ [last]) heads others) (hlast : last ≠ .head)
    (hlt : ∀ child ∈ others, child < edits.length + 2) :
    HeadsFirst (edits ++ [last]) heads (others ++ [edits.length + 2]) where
  isHead := h.isHead
  notHead := by
    rw [List.forall_mem_append]
    refine ⟨h.notHead, ?_⟩
    intro child hchild hhead
    rw [List.mem_singleton.1 hchild] at hhead
    rcases isHead_concat_iff.1 hhead with ⟨i, hnumber, hold⟩ | ⟨-, hnew⟩
    · have hlength : i < edits.length := (List.getElem?_eq_some_iff.1 hold).1
      omega
    · exact hlast hnew
  latest := h.latest
  ordered := pairwise_concat_of_lt h.ordered hlt

end HeadsFirst

/-- Below the document element there are first the heads, of which the latest comes first, and then
the other children in the order of their numbers. -/
theorem Placed.exists_headsFirst {edits : List Edit} (h : Placed edits) :
    ∃ heads others, (build edits).children root = heads ++ others ∧
      HeadsFirst edits heads others := by
  induction h with
  | nil =>
    refine ⟨[], [1], rfl, by simp, ?_, List.Pairwise.nil, List.pairwise_singleton _ _⟩
    rintro child - ⟨i, -, hedit⟩
    simp at hedit
  | @concat edits last hedits hparent ih =>
    obtain ⟨heads, others, hchildren, hfirst⟩ := ih
    have hsize : (build edits).size = edits.length + 2 := hedits.size_build
    have hlt : ∀ child ∈ heads ++ others, child < edits.length + 2 := by
      intro child hchild
      rw [← hsize]
      exact lt_size_of_mem_children_build edits (hchildren ▸ hchild)
    obtain ⟨hheads, hothers⟩ := List.forall_mem_append.1 hlt
    have hkept : HeadsFirst (edits ++ [last]) heads others := hfirst.keep hothers
    rw [build_concat, edit_eq_insert, children_insert, hchildren, hsize]
    by_cases hlast : last = .head
    · -- A head always goes below the document element, in front of what is there.
      subst hlast
      rw [if_pos ⟨rfl, hsize ▸ hparent⟩]
      exact ⟨_, others, rfl, hkept.consHead hheads⟩
    · simp only [hlast, decide_false, Bool.false_eq_true, if_false]
      split
      · exact ⟨heads, _, List.append_assoc _ _ _, hkept.concatOther hlast hothers⟩
      · exact ⟨heads, others, rfl, hkept⟩

/-! ## What is known of a document that was built -/

/-- What is known of the document that edits build. The nodes are those of the empty page and one for
each edit, numbered in this order. The document element is the only node without a parent; all others
have parents with smaller numbers, which list them once, and nothing else is listed. One way leads from
the document element to each node. Children stand in the order in which they were put in, but for
heads, which stand in front of the other children of the document element, the latest first. Elements
have tags, texts have texts, and only elements have attributes. -/
structure Grown (edits : List Edit) (doc : Document) : Prop where
  size_eq : doc.size = edits.length + 2
  content_iff : ∀ node, (∃ content, doc.content? node = some content) ↔ node < doc.size
  html : doc.content? root = some (.element "html" .empty)
  body : doc.content? 1 = some (.element "body" .empty) ∧ doc.parent? 1 = some root
  made : ∀ i edit, edits[i]? = some edit →
    doc.content? (i + 2) = some edit.content ∧ doc.parent? (i + 2) = some edit.parent
  orphan_iff : ∀ node < doc.size, doc.parent? node = none ↔ node = root
  parent_lt : ∀ node parent, doc.parent? node = some parent → parent < node
  count_eq : ∀ node child,
    (doc.children node).count child = if doc.parent? child = some node then 1 else 0
  way : ∀ node < doc.size, ∃! path, doc.Leads root path node
  ordered : ∀ node ≠ root, (doc.children node).Pairwise (· < ·)
  heads : ∃ heads others, doc.children root = heads ++ others ∧ HeadsFirst edits heads others
  tag_iff : ∀ node tag,
    doc.tag? node = some tag ↔ ∃ dataset, doc.content? node = some (.element tag dataset)
  text_iff : ∀ node text, doc.text? node = some text ↔ doc.content? node = some (.text text)
  dataset_eq : ∀ node, doc.tag? node = none → doc.dataset node = .empty

/-- A node has a tag if it is an element with this tag. -/
theorem tag?_eq_some_iff {doc : Document} {node : Nat} {tag : String} :
    doc.tag? node = some tag ↔ ∃ dataset, doc.content? node = some (.element tag dataset) := by
  unfold tag?
  rcases doc.content? node with _ | ⟨found, dataset⟩ | text | _ <;> simp

/-- A node has a text if it is a text node with this text. -/
theorem text?_eq_some_iff {doc : Document} {node : Nat} {text : String} :
    doc.text? node = some text ↔ doc.content? node = some (.text text) := by
  unfold text?
  rcases doc.content? node with _ | ⟨tag, dataset⟩ | found | _ <;> simp

/-- A node without a tag has no attributes. -/
theorem dataset_of_tag?_eq_none {doc : Document} {node : Nat} (h : doc.tag? node = none) :
    doc.dataset node = .empty := by
  unfold tag? at h
  unfold dataset
  generalize doc.content? node = content at h ⊢
  rcases content with _ | ⟨tag, dataset⟩ | text | _
  · rfl
  · cases h
  · rfl
  · rfl

/-- A node lists a node once if it is its parent, and not at all otherwise. -/
theorem count_children_build (edits : List Edit) (node child : Nat) :
    ((build edits).children node).count child =
      if (build edits).parent? child = some node then 1 else 0 := by
  obtain ⟨hlinked, hnodup⟩ := linked_and_nodup_build edits
  have hmem : child ∈ (build edits).children node ↔ (build edits).parent? child = some node :=
    ⟨hlinked node child, (listed_and_rooted_build edits).1 child node⟩
  rw [(hnodup node).count]
  simp only [hmem]

/-- Edits that find their parents build a document of which all this is known, and however edits go on,
what its nodes are and where they stand stays as it is. -/
theorem grown_build {edits : List Edit} (h : Placed edits) :
    Grown edits (build edits) ∧
      ∀ more, ∀ node < (build edits).size,
        (build (edits ++ more)).content? node = (build edits).content? node ∧
        (build (edits ++ more)).parent? node = (build edits).parent? node := by
  obtain ⟨hlisted, hrooted⟩ := listed_and_rooted_build edits
  have hpage : ∀ node < 2, (build edits).content? node = blank.content? node ∧
      (build edits).parent? node = blank.parent? node :=
    fun node hlt => (build_append_of_lt [] edits hlt).2
  have htree : (build edits).IsTree := isTree_build edits
  constructor
  · exact
      { size_eq := h.size_build
        content_iff := by
          intro node
          rw [← Option.isSome_iff_exists, content?, Option.isSome_map]
          simp [size]
        html := (hpage 0 (by omega)).1
        body := hpage 1 (by omega)
        made := fun i edit hedit => h.made hedit
        orphan_iff := by
          intro node hlt
          constructor
          · intro hnone
            by_contra hne
            obtain ⟨parent, hparent⟩ := hrooted node hlt hne
            rw [hnone] at hparent
            cases hparent
          · rintro rfl
            exact (hpage 0 (by omega)).2
        parent_lt := fun node parent hparent => parent?_lt hparent
        count_eq := count_children_build edits
        way := by
          intro node hlt
          obtain ⟨path, hpath⟩ := exists_leads (hrooted.atOrBelow_root hlisted hlt)
          exact ⟨path, hpath, fun other hother => htree.eq_of_leads hother hpath⟩
        ordered := fun node hne => pairwise_children_build edits hne
        heads := h.exists_headsFirst
        tag_iff := fun node tag => tag?_eq_some_iff
        text_iff := fun node text => text?_eq_some_iff
        dataset_eq := fun node => dataset_of_tag?_eq_none }
  · intro more node hlt
    exact (build_append_of_lt edits more hlt).2

/-- A page with a text that has a comment below it, an element in the comment, and two heads. An element
that is called `head` but not put in as one is in its place behind the body; what comes later does not
touch the comment. -/
theorem grown_build_two_heads :
    let edits : List Edit :=
      [.text 1 "a", .head, .other 2, .element 4 "p" ⟨[("class", "lead")]⟩, .element 0 "head" .empty,
        .head]
    Placed edits ∧ (build edits).children root = [7, 3, 1, 6] ∧ Grown edits (build edits) ∧
      (build (edits ++ [.text 4 "b"])).content? 4 = some .other ∧
      (build (edits ++ [.text 4 "b"])).parent? 4 = some 2 := by
  intro edits
  have hplaced : Placed ([] ++ [.text 1 "a"] ++ [.head] ++ [.other 2] ++
      [.element 4 "p" ⟨[("class", "lead")]⟩] ++ [.element 0 "head" .empty] ++ [.head]) := by
    refine .concat (.concat (.concat (.concat (.concat (.concat .nil ?_) ?_) ?_) ?_) ?_) ?_ <;> decide
  obtain ⟨hgrown, hkept⟩ := grown_build hplaced
  obtain ⟨hcontent, hparent⟩ := hkept [.text 4 "b"] 4 (by decide)
  exact ⟨hplaced, by decide, hgrown, hcontent.trans (by decide), hparent.trans (by decide)⟩

end TreeText.Document
