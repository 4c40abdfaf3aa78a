import HtmlText.Proofs.AppendHistory
import HtmlText.Proofs.CaseMapping
import HtmlText.Proofs.RenderRecursion
import Mathlib.Data.List.Induction

/-!
# Attributes

An element keeps each attribute once, under its name in lower case, in the place where the name came
up first and with the value that it was given last. Names are looked up in any case. A look-up tries
the name as it is before its lower case, and this makes no difference: a name that is there as it is
is in lower case already, since lower case is final.

## Main definitions

* `lastGiven?`: the value that was given last under a name, in any case.

## Main results

* `map_fst_ofPairs`, `lookup_ofPairs`: the names and values of an association of pairs.
* `Element.attribute?_normalized`: look-up in an element.
* `Tree.attributes_afterAll`: the attributes of an element of a tree.
-/

namespace HtmlText

/-! ### Associations of pairs -/

section Association

variable {α : Type}

theorem ofPairs_concat (pairs : List (String × α)) (pair : String × α) :
    ofPairs (pairs ++ [pair]) = putKey (ofPairs pairs) pair.1 pair.2 := by
  rw [ofPairs, List.foldl_append, ← ofPairs]
  rfl

/-- A key that is there keeps its place. -/
theorem map_fst_putKey_of_mem {entries : List (String × α)} {key : String}
    (h : key ∈ entries.map Prod.fst) (value : α) :
    (putKey entries key value).map Prod.fst = entries.map Prod.fst := by
  induction entries with
  | nil => exact absurd h List.not_mem_nil
  | cons entry entries ih =>
    obtain ⟨k, v⟩ := entry
    rw [putKey]
    split_ifs with hk
    · rfl
    · have hmem : key ∈ entries.map Prod.fst :=
        (List.mem_cons.mp h).resolve_left (Ne.symm hk)
      rw [List.map_cons, List.map_cons, ih hmem]

/-- A new key comes last. -/
theorem putKey_of_notMem {entries : List (String × α)} {key : String}
    (h : key ∉ entries.map Prod.fst) (value : α) :
    putKey entries key value = entries ++ [(key, value)] := by
  induction entries with
  | nil => rfl
  | cons entry entries ih =>
    obtain ⟨k, v⟩ := entry
    obtain ⟨hk, hentries⟩ := not_or.mp fun h' => h (List.mem_cons.mpr h')
    rw [putKey, if_neg (Ne.symm hk), ih hentries, List.cons_append]

/-- The keys of an association are those of the pairs, in the order in which they first came up. -/
theorem map_fst_ofPairs (pairs : List (String × α)) :
    (ofPairs pairs).map Prod.fst = (pairs.map Prod.fst).eraseDups := by
  induction pairs using List.reverseRecOn with
  | nil => rfl
  | append_singleton pairs pair ih =>
    rw [ofPairs_concat, List.map_append, List.eraseDups_append, ← ih]
    by_cases h : pair.1 ∈ (ofPairs pairs).map Prod.fst
    · have hmem : pair.1 ∈ pairs.map Prod.fst := by rwa [ih, List.mem_eraseDups] at h
      rw [map_fst_putKey_of_mem h]
      simp [List.removeAll, hmem]
    · have hmem : pair.1 ∉ pairs.map Prod.fst := by rwa [ih, List.mem_eraseDups] at h
      have hnew : (List.map Prod.fst [pair]).removeAll (pairs.map Prod.fst) = [pair.1] := by
        simp [List.removeAll, hmem]
      rw [putKey_of_notMem h, List.map_append, hnew]
      rfl

/-- A key has the value of the last pair with it. -/
theorem lookup_ofPairs (pairs : List (String × α)) (key : String) :
    (ofPairs pairs).lookup key =
      ((pairs.filter fun pair => pair.1 = key).getLast?).map Prod.snd := by
  induction pairs using List.reverseRecOn with
  | nil => rfl
  | append_singleton pairs pair ih =>
    rw [ofPairs_concat, List.filter_append]
    by_cases h : pair.1 = key
    · rw [← h, lookup_putKey_self]
      simp
    · rw [lookup_putKey_of_ne _ _ (Ne.symm h), ih]
      simp [h]

/-- Pairs with distinct keys are an association already. -/
theorem ofPairs_of_nodup {pairs : List (String × α)} (h : (pairs.map Prod.fst).Nodup) :
    ofPairs pairs = pairs := by
  induction pairs using List.reverseRecOn with
  | nil => rfl
  | append_singleton pairs pair ih =>
    rw [List.map_append, List.nodup_append] at h
    obtain ⟨hpairs, -, hnew⟩ := h
    rw [ofPairs_concat, ih hpairs]
    exact putKey_of_notMem (fun hmem => hnew _ hmem _ (by simp) rfl) pair.2

theorem nodup_map_fst_ofPairs (pairs : List (String × α)) :
    ((ofPairs pairs).map Prod.fst).Nodup := by
  induction pairs using List.reverseRecOn with
  | nil => exact .nil
  | append_singleton pairs pair ih =>
    rw [ofPairs_concat]
    by_cases h : pair.1 ∈ (ofPairs pairs).map Prod.fst
    · rwa [map_fst_putKey_of_mem h]
    · rw [putKey_of_notMem h, List.map_append, List.nodup_append]
      exact ⟨ih, List.nodup_singleton _, fun k hk k' hk' heq =>
        h (List.mem_singleton.mp hk' ▸ heq ▸ hk)⟩

/-- Every entry of an association is found by its key. -/
theorem lookup_of_mem_ofPairs {pairs : List (String × α)} {entry : String × α}
    (h : entry ∈ ofPairs pairs) : (ofPairs pairs).lookup entry.1 = some entry.2 := by
  obtain ⟨before, after, hsplit⟩ := List.append_of_mem h
  have hnodup := nodup_map_fst_ofPairs pairs
  rw [hsplit, List.map_append, List.nodup_append] at hnodup
  refine List.lookup_eq_some_iff.mpr ⟨before, after, hsplit, fun other hother => ?_⟩
  exact bne_iff_ne.mpr
    (hnodup.2.2 other.1 (List.mem_map_of_mem hother) entry.1 List.mem_cons_self).symm

end Association

/-! ### Attributes of an element -/

/-- The value of the last attribute with a given name, in any case. -/
def lastGiven? (attributes : List (String × String)) (name : String) : Option String :=
  ((attributes.filter fun a => lower a.1 = lower name).getLast?).map Prod.snd

theorem lastGiven?_congr {name name' : String} (h : lower name = lower name')
    (attributes : List (String × String)) :
    lastGiven? attributes name = lastGiven? attributes name' := by
  rw [lastGiven?, lastGiven?, h]

namespace Element

variable (tag : String) (attributes : List (String × String))

/-- What is kept under a name in lower case is what was given last under it, in any case. -/
theorem lookup_normalized (name : String) :
    (normalized tag attributes).attributes.lookup (lower name) = lastGiven? attributes name := by
  rw [normalized, lookup_ofPairs, List.filter_map, List.getLast?_map, Option.map_map]
  rfl

/-- No attribute is kept under a name that is not in lower case. -/
theorem lookup_normalized_of_ne {name : String} (h : lower name ≠ name) :
    (normalized tag attributes).attributes.lookup name = none := by
  refine List.lookup_eq_none_iff.mpr fun a ha => bne_iff_ne.mpr ?_
  rintro rfl
  have hmem : a.1 ∈ (normalized tag attributes).attributes.map Prod.fst := List.mem_map_of_mem ha
  rw [normalized, map_fst_ofPairs, List.mem_eraseDups, List.map_map] at hmem
  obtain ⟨given, -, hlower⟩ := List.mem_map.mp hmem
  exact h (hlower ▸ lower_lower given.1)

/-- An attribute, named in any case, has the value that was given last under its name, in any
case. -/
theorem attribute?_normalized (name : String) :
    (normalized tag attributes).attribute? name = lastGiven? attributes name := by
  rw [attribute?, lookup_normalized]
  by_cases h : lower name = name
  · rw [← lookup_normalized tag, h, Option.or_self]
  · rw [lookup_normalized_of_ne tag attributes h, Option.none_or]

/-- The names of the attributes in lower case, in the order in which they first came up. -/
theorem names_normalized :
    (normalized tag attributes).attributes.map Prod.fst =
      (attributes.map fun a => lower a.1).eraseDups := by
  rw [normalized, map_fst_ofPairs, List.map_map]
  rfl

/-- Each attribute has the value that was given last under its name. -/
theorem lastGiven?_of_mem_normalized {a : String × String}
    (h : a ∈ (normalized tag attributes).attributes) : lastGiven? attributes a.1 = some a.2 := by
  have hlookup : (normalized tag attributes).attributes.lookup a.1 = some a.2 :=
    lookup_of_mem_ofPairs h
  rw [← attribute?_normalized tag, attribute?, hlookup, Option.some_or]

end Element

/-! ### Attributes in a tree -/

namespace Tree

variable {history later : List Appending} {x parent : Nat} {root tag : String}
  {attributes : List (String × String)}

theorem attribute?_eq {t : Tree} {id : Nat} {node : Node} (hnode : t.nodes[id]? = some node)
    (name : String) :
    t.attribute? id name = .ok (node.element?.bind (·.attribute? name)) := by
  rw [Tree.attribute?, get_eq_ok_iff.mpr hnode]
  rfl

/-- **Attributes.** An element that was appended with a list of attributes keeps their names in
lower case, each once, in the order in which they first came up, and under each the value that was
given last. Under a name in any case, the value is found that was given last under the name in any
case, and none if there was none. A link is rendered with the target that was given last. -/
theorem attributes_afterAll
    (h : (ofRoot root).AppendedBy history x (.element parent tag attributes) later) :
    let t := (ofRoot root).afterAll history
    ∃ node e, t.nodes[x]? = some node ∧ node.kind = .element e ∧
      e.attributes.map Prod.fst = (attributes.map fun a => lower a.1).eraseDups ∧
      (∀ a ∈ e.attributes, lastGiven? attributes a.1 = some a.2) ∧
      (∀ name, t.attribute? x name = .ok (lastGiven? attributes name)) ∧
      (∀ name name', lower name = lower name' → t.attribute? x name = t.attribute? x name') ∧
      ∀ (rules : Rules) (options : Options), rules.forTag (lower tag) = .link →
        ∃ parts, List.Forall₂ (fun c part => t.renderAt rules options c = .ok part)
            node.children parts ∧
          t.renderAt rules options x =
            .ok (renderLink (String.join parts) ((lastGiven? attributes "href").getD "")) := by
  intro t
  have ht : t.Linked := ((Grown.ofRoot root).afterAll history).linked
  obtain ⟨node, hnode, hkind, -⟩ := h.exists_node
  have hattribute (name : String) : t.attribute? x name = .ok (lastGiven? attributes name) := by
    rw [attribute?_eq hnode, Node.element?, hkind, ← Element.attribute?_normalized tag]
    rfl
  refine ⟨node, .normalized tag attributes, hnode, hkind, Element.names_normalized tag attributes,
    fun a ha => Element.lastGiven?_of_mem_normalized tag attributes ha, hattribute, ?_, ?_⟩
  · intro name name' hname
    rw [hattribute, hattribute, lastGiven?_congr hname]
  · intro rules options hrule
    obtain ⟨last, hlast⟩ := exists_isLastInBlock ht hnode
    obtain ⟨parts, hparts, hrender⟩ := renderAt_element rules options ht hnode hkind hlast
    refine ⟨parts, hparts, hrender.trans ?_⟩
    change rules.forTag (Element.normalized tag attributes).tag = .link at hrule
    rw [hrule, Element.attribute?_normalized]
    simp [Rule.visitsChildren, Rule.shape, Rule.ending, Rule.trailer]

/-- The attributes of a link whose target and title are given twice, in different cases. -/
def casedAttributes : List (String × String) :=
  [("HREF", "u:a"), ("ΤΊΤΛΟΣ", "first"), ("hRef", "u:b"), ("τίτλος", "second")]

/-- What is appended behind the link: its text, an element that finds no parent, and another one. -/
def behindLink : List Appending := [.text 2 "t", .element 9 "b" [], .element 0 "p" []]

/-- The link is rendered with its second target. Its title is found with a final sigma and
without. -/
theorem attributes_casedLink :
    let history := .text 0 "x" :: .element 0 "A" casedAttributes :: behindLink
    let t := (ofRoot "div").afterAll history
    (ofRoot "div").AppendedBy history 2 (.element 0 "A" casedAttributes) behindLink ∧
      (∃ node e, t.nodes[2]? = some node ∧ node.kind = .element e ∧
        e.attributes.map Prod.fst = ["href", "τίτλος"]) ∧
      t.attribute? 2 "HrEf" = .ok (some "u:b") ∧
      t.attribute? 2 "ΤΊΤΛΟΣ" = t.attribute? 2 "Τίτλος" ∧
      ∃ parts, t.renderAt .builtin {} 2 = .ok (renderLink (String.join parts) "u:b") := by
  intro history t
  have happended : (ofRoot "div").AppendedBy history 2 (.element 0 "A" casedAttributes)
      behindLink := appendedBy_iff.mpr ⟨[.text 0 "x"], rfl, by decide +kernel, by decide +kernel⟩
  have hlast (name : String) (h : lower name = "href") :
      lastGiven? casedAttributes name = some "u:b" := by
    rw [lastGiven?, h]
    decide +kernel
  obtain ⟨node, e, hnode, hkind, hnames, -, hattribute, hcased, hlink⟩ :=
    attributes_afterAll happended
  have hrule : Rules.builtin.forTag (lower "A") = .link := by decide +kernel
  obtain ⟨parts, -, hrender⟩ := hlink .builtin {} hrule
  refine ⟨happended, ⟨node, e, hnode, hkind, hnames.trans (by decide +kernel)⟩, ?_,
    hcased _ _ (by decide +kernel), parts, ?_⟩
  · rw [hattribute, hlast "HrEf" (by decide +kernel)]
  · rw [hrender, hlast "href" (by decide +kernel)]
    rfl

end Tree

end HtmlText
