import FleetOperator.Proofs.Disk.Memory

/-!
# A tree less some of its subtrees

Which subtrees a tree loses is a test on the names that lead to them. A tree
less what passes the test (`Tree.without`) has nothing under names that pass
it, or that lie below such names (`find_without_of_gone`), and every other
entry as before, itself less its part of what is lost
(`find_without_of_kept`).

Taking out one path is the test for its names, and taking out some subtrees
and then others is one test for both. So a run of removals comes to a single
test, and says in one equation what is left of the whole tree.
-/

namespace FleetOperator

namespace Tree

variable {Name Content : Type}

mutual

/-- The tree without what is reached by names that are `gone`. -/
def without (gone : List Name → Bool) : Tree Name Content → Tree Name Content
  | .file content => .file content
  | .link target => .link target
  | .dir entries => .dir (withoutEntries gone entries)

/-- The entries of a directory without what is reached from there by names that are `gone`. -/
def withoutEntries (gone : List Name → Bool) :
    List (Name × Tree Name Content) → List (Name × Tree Name Content)
  | [] => []
  | (name, entry) :: rest =>
    if gone [name] then withoutEntries gone rest
    else (name, entry.without fun below => gone (name :: below)) :: withoutEntries gone rest

end

/-! ## One test after another -/

mutual

/-- A test that no names pass takes nothing out. -/
theorem without_of_none {gone : List Name → Bool}
    (hgone : ∀ name below, gone (name :: below) = false) (tree : Tree Name Content) :
    tree.without gone = tree := by
  cases tree with
  | file content => rfl
  | link target => rfl
  | dir entries => rw [without, withoutEntries_of_none hgone entries]

theorem withoutEntries_of_none {gone : List Name → Bool}
    (hgone : ∀ name below, gone (name :: below) = false)
    (entries : List (Name × Tree Name Content)) : withoutEntries gone entries = entries := by
  match entries with
  | [] => rfl
  | (name, entry) :: rest =>
      have hbelow : entry.without (fun below => gone (name :: below)) = entry :=
        without_of_none (fun first below => hgone name (first :: below)) entry
      rw [withoutEntries, hgone, if_neg Bool.false_ne_true, hbelow,
        withoutEntries_of_none hgone rest]

end

mutual

theorem without_without (first second : List Name → Bool) (tree : Tree Name Content) :
    (tree.without first).without second =
      tree.without fun names => first names || second names := by
  cases tree with
  | file content => rfl
  | link target => rfl
  | dir entries => simp only [without, withoutEntries_withoutEntries first second entries]

theorem withoutEntries_withoutEntries (first second : List Name → Bool)
    (entries : List (Name × Tree Name Content)) :
    withoutEntries second (withoutEntries first entries) =
      withoutEntries (fun names => first names || second names) entries := by
  match entries with
  | [] => rfl
  | (name, entry) :: rest =>
      have hrest := withoutEntries_withoutEntries first second rest
      cases hfirst : first [name] with
      | true => simp only [withoutEntries, hfirst, Bool.true_or, if_true, hrest]
      | false =>
          have hentry := without_without (fun below => first (name :: below))
            (fun below => second (name :: below)) entry
          cases hsecond : second [name] with
          | true => simp [withoutEntries, hfirst, hsecond, hrest]
          | false => simp [withoutEntries, hfirst, hsecond, hrest, hentry]

end

end Tree

namespace MemoryDisk

open FleetOperator.Tree

variable {Content : Type}

/-- The test that one list of names passes. -/
def only (names : List String) : List String → Bool := fun others => others == names

theorem withoutEntries_only_singleton (name : String)
    (entries : List (String × Tree String Content)) :
    withoutEntries (only [name]) entries = entries.filter fun e => !(e.1 == name) := by
  induction entries with
  | nil => rfl
  | cons head rest ih =>
      obtain ⟨key, entry⟩ := head
      have hbelow : entry.without (fun below => only [name] (key :: below)) = entry :=
        without_of_none (by simp [only]) entry
      rw [withoutEntries, hbelow, ih]
      by_cases hkey : key = name <;> simp [only, hkey]

theorem withoutEntries_only_cons (name second : String) (others : List String)
    (entries : List (String × Tree String Content)) :
    withoutEntries (only (name :: second :: others)) entries =
      entries.map fun e =>
        if e.1 == name then (e.1, e.2.without (only (second :: others))) else e := by
  induction entries with
  | nil => rfl
  | cons head rest ih =>
      obtain ⟨key, entry⟩ := head
      have hhere : only (name :: second :: others) [key] = false := by simp [only]
      rw [withoutEntries, hhere, if_neg Bool.false_ne_true, ih, List.map_cons]
      by_cases hkey : key = name
      · have htest : (fun below => only (name :: second :: others) (key :: below)) =
            only (second :: others) := by
          funext below
          simp [only, hkey]
        rw [htest, if_pos (by simpa using hkey)]
      · have hbelow : entry.without
            (fun below => only (name :: second :: others) (key :: below)) = entry :=
          without_of_none (by simp [only, hkey]) entry
        rw [hbelow, if_neg (by simpa using hkey)]

/-- Taking out one path is the test for its names. -/
theorem prune_eq_without {names : List String} (hne : names ≠ []) (tree : Tree String Content) :
    tree.prune names = tree.without (only names) := by
  induction names generalizing tree with
  | nil => exact absurd rfl hne
  | cons name rest ih =>
      cases tree with
      | file content => rw [prune_file]; rfl
      | link target => rw [prune_link]; rfl
      | dir entries =>
          cases rest with
          | nil => rw [prune, without, withoutEntries_only_singleton]
          | cons second others =>
              have hchild := ih (List.cons_ne_nil second others)
              simp only [prune, without, withoutEntries_only_cons, hchild]

/-! ## What is found in such a tree -/

theorem lookup_withoutEntries (gone : List String → Bool) (name : String)
    (entries : List (String × Tree String Content)) :
    (withoutEntries gone entries).lookup name =
      if gone [name] then none
      else (entries.lookup name).map (·.without fun below => gone (name :: below)) := by
  induction entries with
  | nil => simp [withoutEntries]
  | cons head rest ih =>
      obtain ⟨key, entry⟩ := head
      by_cases hkey : name = key
      · subst hkey
        cases hgone : gone [name] with
        | true => simpa [withoutEntries, hgone] using ih
        | false => simp [withoutEntries, hgone]
      · have hne : (name == key) = false := by simp [hkey]
        cases hgone : gone [key] with
        | true => simp [withoutEntries, hgone, List.lookup_cons, hne, ih]
        | false => simp [withoutEntries, hgone, List.lookup_cons, hne, ih]

theorem find_without_of_gone {gone : List String → Bool} {names : List String}
    (hgone : gone names = true) (hne : names ≠ []) (tree : Tree String Content) :
    (find names (tree.without gone)).toBool = false := by
  induction names generalizing gone tree with
  | nil => exact absurd rfl hne
  | cons name rest ih =>
      cases tree with
      | file content => rfl
      | link target => rfl
      | dir entries =>
          rw [without, find, lookup_withoutEntries]
          cases hhere : gone [name] with
          | true => rfl
          | false =>
              cases entries.lookup name with
              | none => rfl
              | some child =>
                  refine ih hgone (fun hrest => ?_) child
                  rw [hrest, hhere] at hgone
                  cases hgone

theorem find_without_of_kept {gone : List String → Bool} {names : List String}
    (hkept : ∀ above, above <+: names → above ≠ [] → gone above = false)
    (tree : Tree String Content) :
    find names (tree.without gone) =
      (find names tree).map (·.without fun below => gone (names ++ below)) := by
  induction names generalizing gone tree with
  | nil => rfl
  | cons name rest ih =>
      cases tree with
      | file content => rfl
      | link target => rfl
      | dir entries =>
          have hhere : gone [name] = false := hkept [name] (by simp) (by simp)
          have hrest : ∀ above, above <+: rest → above ≠ [] → gone (name :: above) = false :=
            fun above habove _ => hkept _ (List.cons_prefix_cons.2 ⟨rfl, habove⟩) (by simp)
          rw [without, find, lookup_withoutEntries, hhere, if_neg Bool.false_ne_true, find]
          cases entries.lookup name with
          | none => rfl
          | some child => exact ih hrest child

/-- What lies neither above nor below anything that is gone is found as before. -/
theorem find_without_of_apart {gone : List String → Bool} {names : List String}
    (hapart : ∀ others, gone others = true → ¬ others <+: names ∧ ¬ names <+: others)
    (tree : Tree String Content) : find names (tree.without gone) = find names tree := by
  have hkept : ∀ above, above <+: names → above ≠ [] → gone above = false := by
    intro above habove _
    cases hgone : gone above with
    | false => rfl
    | true => exact absurd habove (hapart above hgone).1
  have hbelow : ∀ name below, gone (names ++ name :: below) = false := by
    intro name below
    cases hgone : gone (names ++ name :: below) with
    | false => rfl
    | true => exact absurd (List.prefix_append _ _) (hapart _ hgone).2
  rw [find_without_of_kept hkept]
  cases find names tree with
  | error e => rfl
  | ok entry => exact congrArg Except.ok (without_of_none hbelow entry)

end MemoryDisk

end FleetOperator
