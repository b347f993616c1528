
set_option autoImplicit false

namespace Inquiry

abbrev Entries (α : Type) := List (String × α)

namespace Entries

variable {α : Type}

def keys (entries : Entries α) : List String := entries.map Prod.fst

def get? (entries : Entries α) (key : String) : Option α :=
  match entries with
  | [] => none
  | (name, value) :: rest => if name = key then some value else get? rest key

def has (entries : Entries α) (key : String) : Bool := (get? entries key).isSome

def put (entries : Entries α) (key : String) (value : α) : Entries α :=
  match entries with
  | [] => [(key, value)]
  | (name, old) :: rest =>
    if name = key then (name, value) :: rest else (name, old) :: put rest key value

def erase (entries : Entries α) (key : String) : Entries α :=
  entries.filter fun entry => entry.1 != key

def ofPairs (pairs : List (String × α)) : Entries α :=
  pairs.foldl (fun entries (key, value) => put entries key value) []

@[simp] theorem get?_nil (key : String) : get? ([] : Entries α) key = none := rfl

@[simp] theorem get?_put_self (entries : Entries α) (key : String) (value : α) :
    get? (put entries key value) key = some value := by
  induction entries with
  | nil => simp [put, get?]
  | cons entry rest ih =>
    obtain ⟨name, old⟩ := entry
    by_cases same : name = key <;> simp [put, get?, same, ih]

@[simp] theorem get?_put_of_ne (entries : Entries α) {key other : String} (value : α)
    (different : other ≠ key) : get? (put entries key value) other = get? entries other := by
  induction entries with
  | nil => simp [put, get?, different.symm]
  | cons entry rest ih =>
    obtain ⟨name, old⟩ := entry
    by_cases same : name = key
    · simp [put, get?, same, different.symm]
    · by_cases wanted : name = other
      · subst wanted
        simp [put, get?, same]
      · simp [put, get?, same, wanted, ih]

theorem keys_put (entries : Entries α) (key : String) (value : α) :
    keys (put entries key value) = if key ∈ keys entries then keys entries
      else keys entries ++ [key] := by
  induction entries with
  | nil => simp [put, keys]
  | cons entry rest ih =>
    obtain ⟨name, old⟩ := entry
    by_cases same : name = key
    · simp [put, keys, same]
    · have different : key ≠ name := fun h => same h.symm
      have tail : keys ((name, old) :: rest) = name :: keys rest := rfl
      have putTail : keys (put ((name, old) :: rest) key value)
          = name :: keys (put rest key value) := by simp [put, same, keys]
      rw [putTail, ih, tail]
      by_cases known : key ∈ keys rest <;> simp [known, different]

theorem has_iff_mem_keys (entries : Entries α) (key : String) :
    has entries key = true ↔ key ∈ keys entries := by
  induction entries with
  | nil => simp [has, keys]
  | cons entry rest ih =>
    obtain ⟨name, value⟩ := entry
    by_cases same : name = key
    · simp [has, get?, keys, same]
    · have different : key ≠ name := fun h => same h.symm
      simpa [has, get?, keys, same, different] using ih

end Entries

end Inquiry
