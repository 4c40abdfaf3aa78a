/-!
# Ordered associations

Attributes and rules are kept as lists of pairs with distinct keys, in the order in which the keys
first came up. A key that comes up again keeps its place and takes the new value.

## Main definitions

* `putKey`: give a key a value.
* `ofPairs`: the association of a list of pairs.
-/

namespace HtmlText

variable {α : Type}

/-- Give a key a value: in place if the key is there, at the end otherwise. -/
def putKey (entries : List (String × α)) (key : String) (value : α) : List (String × α) :=
  match entries with
  | [] => [(key, value)]
  | (k, v) :: entries =>
    if k = key then (k, value) :: entries else (k, v) :: putKey entries key value

/-- The association in which every key of the pairs has the value it was given last. -/
def ofPairs (pairs : List (String × α)) : List (String × α) :=
  pairs.foldl (fun entries pair => putKey entries pair.1 pair.2) []

@[simp] theorem lookup_putKey_self (entries : List (String × α)) (key : String) (value : α) :
    (putKey entries key value).lookup key = some value := by
  induction entries with
  | nil => simp [putKey]
  | cons entry entries ih =>
    obtain ⟨k, v⟩ := entry
    by_cases h : k = key
    · simp [putKey, h]
    · have hne : (key == k) = false := by simpa using Ne.symm h
      simp [putKey, h, List.lookup_cons, hne, ih]

theorem lookup_putKey_of_ne (entries : List (String × α)) {key other : String} (value : α)
    (hne : other ≠ key) : (putKey entries key value).lookup other = entries.lookup other := by
  induction entries with
  | nil =>
    have : (other == key) = false := by simpa using hne
    simp [putKey, List.lookup_cons, this]
  | cons entry entries ih =>
    obtain ⟨k, v⟩ := entry
    by_cases h : k = key
    · have : (other == k) = false := by simpa [h] using hne
      simp [putKey, h, List.lookup_cons, h ▸ this]
    · cases hk : (other == k) <;> simp [putKey, h, List.lookup_cons, hk, ih]

end HtmlText
