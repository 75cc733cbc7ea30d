import AsmListing.FileTree
import AsmListing.Proofs.Result
import Mathlib.Data.List.Basic

/-!
# Creating files

Creating a file puts it at one path and leaves all other paths alone.  What
could be reached before can be reached afterwards, so a created file is found
under the name that it was created with.
-/

namespace AsmListing

namespace FileTree

/-! ## One path changes -/

/-- Contents at a path are found there, and nowhere else. -/
theorem lookup_putAt (path other : List String) (contents : List UInt8)
    (files : List (List String × List UInt8)) :
    (putAt path contents files).lookup other =
      if other = path then some contents else files.lookup other := by
  induction files with
  | nil => exact lookup_cons_eq_ite path contents other
  | cons file rest induction =>
      obtain ⟨place, held⟩ := file
      unfold putAt
      split
      · rename_i here
        rw [lookup_cons_eq_ite, lookup_cons_eq_ite, here]
        by_cases same : other = path <;> simp [same]
      · rename_i elsewhere
        rw [lookup_cons_eq_ite, lookup_cons_eq_ite, induction]
        by_cases same : other = place
        · simp [same, elsewhere]
        · simp [same]

section Put

variable (tree : FileTree) (path : List String) (contents : List UInt8)

@[simp] theorem contents?_put_self : (tree.put path contents).contents? path = some contents := by
  simp [put, contents?, lookup_putAt]

theorem contents?_put_of_ne {other : List String} (different : other ≠ path) :
    (tree.put path contents).contents? other = tree.contents? other := by
  simp [put, contents?, lookup_putAt, different]

/-! ## What can be reached -/

/-- Every file keeps its path. -/
theorem exists_mem_putAt {files : List (List String × List UInt8)}
    {file : List String × List UInt8} (member : file ∈ files) :
    ∃ held, (file.1, held) ∈ putAt path contents files := by
  induction files with
  | nil => simp at member
  | cons first rest induction =>
      unfold putAt
      split
      · rename_i here
        rcases List.mem_cons.mp member with rfl | member
        · exact ⟨contents, by simp [here]⟩
        · exact ⟨file.2, List.mem_cons_of_mem _ member⟩
      · rcases List.mem_cons.mp member with rfl | member
        · exact ⟨file.2, List.mem_cons_self⟩
        · obtain ⟨held, kept⟩ := induction member
          exact ⟨held, List.mem_cons_of_mem _ kept⟩

variable {tree}

theorem isDirectory_put {other : List String} (directory : tree.isDirectory other = true) :
    (tree.put path contents).isDirectory other = true := by
  rw [isDirectory, Bool.or_eq_true, List.any_eq_true] at directory ⊢
  rcases directory with top | ⟨file, member, below⟩
  · exact .inl top
  · obtain ⟨held, kept⟩ := exists_mem_putAt path contents member
    exact .inr ⟨(file.1, held), kept, below⟩

theorem occupied_put {other : List String} (occupied : tree.occupied other = true) :
    (tree.put path contents).occupied other = true := by
  rw [FileTree.occupied, Bool.or_eq_true] at occupied ⊢
  rcases occupied with directory | file
  · exact .inl (isDirectory_put path contents directory)
  · right
    by_cases same : other = path
    · rw [same, contents?_put_self]
      rfl
    · rwa [contents?_put_of_ne _ _ _ same]

end Put

/-! ## Ways through a tree -/

section Follow

variable {tree : FileTree} {start next reached : List String} {part : String}

/-- One part of a name leads from a directory to a path. -/
inductive Leads (tree : FileTree) (start : List String) : String → List String → Prop where
  | stay {part : String} (here : part = "" ∨ part = ".") : Leads tree start part start
  | up (inside : start ≠ []) : Leads tree start ".." start.dropLast
  | down {part : String} (named : part ≠ "" ∧ part ≠ "." ∧ part ≠ "..")
      (occupied : tree.occupied (start ++ [part]) = true) : Leads tree start part (start ++ [part])

theorem follow_cons_of_leads (directory : tree.isDirectory start = true)
    (leads : tree.Leads start part next) (rest : List String) :
    tree.follow start (part :: rest) = tree.follow next rest := by
  cases leads with
  | stay here => simp [follow, directory, here]
  | up inside => simp [follow, directory, inside]
  | down named occupied => simp [follow, directory, named, occupied]

/-- A way that can be followed starts in a directory, and each of its parts
leads on. -/
theorem exists_leads_of_follow {rest : List String}
    (followed : tree.follow start (part :: rest) = .ok reached) :
    tree.isDirectory start = true ∧
      ∃ next, tree.Leads start part next ∧ tree.follow next rest = .ok reached := by
  cases directory : tree.isDirectory start with
  | false => simp [follow, directory] at followed
  | true =>
      suffices lead : ∃ next, tree.Leads start part next by
        obtain ⟨next, leads⟩ := lead
        rw [follow_cons_of_leads directory leads] at followed
        exact ⟨rfl, next, leads, followed⟩
      by_cases here : part = "" ∨ part = "."
      · exact ⟨start, .stay here⟩
      by_cases upward : part = ".."
      · subst upward
        by_cases top : start = []
        · subst top
          simp [follow, directory] at followed
        · exact ⟨start.dropLast, .up top⟩
      · have named : part ≠ "" ∧ part ≠ "." ∧ part ≠ ".." := by
          simpa [and_assoc] using And.intro (not_or.mp here) upward
        cases occupied : tree.occupied (start ++ [part]) with
        | false => simp [follow, directory, named, occupied] at followed
        | true => exact ⟨start ++ [part], .down named occupied⟩

/-- A way goes on from where its first part leads to. -/
theorem follow_append {first : List String} (followed : tree.follow start first = .ok reached)
    (second : List String) :
    tree.follow start (first ++ second) = tree.follow reached second := by
  induction first generalizing start with
  | nil =>
      obtain rfl : start = reached := by simpa [follow] using followed
      rfl
  | cons part first induction =>
      obtain ⟨directory, next, leads, followed⟩ := exists_leads_of_follow followed
      rw [List.cons_append, follow_cons_of_leads directory leads, induction followed]

theorem Leads.put (leads : tree.Leads start part next) (path : List String)
    (contents : List UInt8) : (tree.put path contents).Leads start part next := by
  cases leads with
  | stay here => exact .stay here
  | up inside => exact .up inside
  | down named occupied => exact .down named (occupied_put path contents occupied)

/-- A new file closes no way. -/
theorem follow_put {way : List String} (followed : tree.follow start way = .ok reached)
    (path : List String) (contents : List UInt8) :
    (tree.put path contents).follow start way = .ok reached := by
  induction way generalizing start with
  | nil => exact followed
  | cons part way induction =>
      obtain ⟨directory, next, leads, followed⟩ := exists_leads_of_follow followed
      rw [follow_cons_of_leads (isDirectory_put path contents directory)
        (leads.put path contents), induction followed]

end Follow

/-! ## The created file -/

section Create

variable {tree : FileTree} {name : String} {path : List String}

/-- A file can be created where a way leads to a directory and one part of the
name remains for the file itself. -/
theorem exists_follow_of_place (placed : tree.place name = .ok path) :
    (name.isEmpty || isOutside name) = false ∧
      ∃ before directory last, parts name = before ++ [last] ∧
        tree.follow [] before = .ok directory ∧ tree.isDirectory directory = true ∧
        (last ≠ "" ∧ last ≠ "." ∧ last ≠ "..") ∧ path = directory ++ [last] := by
  unfold place at placed
  split at placed
  · contradiction
  rename_i inside
  refine ⟨by simpa using inside, ?_⟩
  simp only at placed
  split at placed
  · contradiction
  rename_i last before shortened
  split at placed
  · contradiction
  rename_i directory followed
  split at placed
  · contradiction
  rename_i reached
  split at placed
  · contradiction
  rename_i named
  split at placed
  · contradiction
  simp only [Bool.or_eq_true, beq_iff_eq, not_or, Except.ok.injEq] at named placed
  -- A name that does not end in a slash loses no part.
  have kept : (parts name).reverse = last :: before ∧ last ≠ "" := by
    cases backward : (parts name).reverse with
    | nil => simp [backward] at shortened
    | cons first rest =>
        have filled : first ≠ "" := by simpa [backward] using named.1.1
        obtain ⟨rfl, rfl⟩ : first = last ∧ rest = before := by
          simpa [backward, filled] using shortened
        exact ⟨rfl, filled⟩
  exact ⟨before.reverse, directory, last, List.reverse_eq_cons_iff.mp kept.1, followed,
    by simpa using reached, ⟨kept.2, named.1.2, named.2⟩, placed.symm⟩

/-- A created file is found under its name. -/
theorem read_put_of_place (placed : tree.place name = .ok path) (contents : List UInt8) :
    (tree.put path contents).read name = .ok contents := by
  obtain ⟨inside, before, directory, last, split, followed, reached, named, rfl⟩ :=
    exists_follow_of_place placed
  -- The way to the directory is still there, and the last part now leads to the file.
  have leads : (tree.put (directory ++ [last]) contents).Leads directory last
      (directory ++ [last]) := .down named (by simp [occupied])
  have found : (tree.put (directory ++ [last]) contents).follow [] (parts name) =
      .ok (directory ++ [last]) := by
    rw [split, follow_append (follow_put followed _ _),
      follow_cons_of_leads (isDirectory_put _ _ reached) leads, follow]
  simp [read, inside, found]

end Create

/-- A name of one ordinary part leads to the only file if that bears it. -/
theorem read_single {name : String} (plain : parts name = [name])
    (ordinary : name ∉ ["", ".", ".."]) (inside : isOutside name = false)
    (contents : List UInt8) :
    (⟨[([name], contents)]⟩ : FileTree).read name = .ok contents := by
  simp only [List.mem_cons, List.not_mem_nil, or_false, not_or] at ordinary
  simp [read, plain, inside, ordinary, follow, isDirectory, occupied, contents?]

end FileTree

end AsmListing
