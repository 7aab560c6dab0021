import TypeForm.CommandLine.Disk

/-!
# Files are read back

Writing a file leaves every directory where it was, so that a path leads to the same place as before
(`Disk.Leads.put`), and there the text that was written is found (`Host.ofDisk_keeps`).
-/
namespace TypeForm

/-- A host writes any text at a path, and what is read there afterwards is that text. -/
structure Host.Keeps {World : Type} (host : Host (StateM World)) (path : String) (world : World) :
    Prop where
  writes : ∀ text, ((host.write path text).run world).1 = .ok ()
  reads : ∀ text, ((host.read path).run ((host.write path text).run world).2).1 = .ok text

namespace Disk

variable {disk : Disk} {place directory : Place} {path content : String}

/-- A path leads through directories to a place where a file is or can be. -/
inductive Leads (disk : Disk) (path : String) (place : Place) : Prop
  | walked {route name directory} (taken : Route.ofPath path = .ok route)
      (last : route.file = some name)
      (entered : disk.walk route.start route.directories = .ok directory)
      (located : locate directory name = .ok place) (free : disk.hasDirectory place = false) :
      Leads disk path place

theorem not_isWithin_self (place : Place) : place.isWithin place = false := by
  simp [Place.isWithin]

theorem hasDirectory_put (file : place ≠ nullDevice) (content : String) (directory : Place) :
    (disk.put place content).hasDirectory directory = true ↔
      disk.hasDirectory directory = true ∨ place.isWithin directory = true := by
  have among : ((disk.put place content).files.any fun file => file.1.isWithin directory) = true ↔
      (disk.files.any fun file => file.1.isWithin directory) = true ∨
        place.isWithin directory = true := by
    rw [put, if_neg file]
    simp only [List.any_append, List.any_filter, List.any_cons, List.any_nil, Bool.or_false,
      Bool.or_eq_true, List.any_eq_true, Bool.and_eq_true, bne_iff_ne]
    constructor
    · rintro (⟨other, inside, -, within⟩ | within)
      · exact .inl ⟨other, inside, within⟩
      · exact .inr within
    · rintro (⟨other, inside, within⟩ | within)
      -- What was at the place before is replaced, but by something at the same place.
      · by_cases same : other.1 = place
        · exact .inr (same ▸ within)
        · exact .inl ⟨other, inside, same, within⟩
      · exact .inr within
  simp only [hasDirectory, Bool.or_eq_true, among, or_assoc]

theorem item?_of_hasDirectory (is : disk.hasDirectory place = true) :
    disk.item? place = some .directory := by
  rw [item?, if_pos is]

theorem enter_put (file : place ≠ nullDevice) {name : String} {inner : Place}
    (entered : disk.enter directory name = .ok inner) :
    (disk.put place content).enter directory name = .ok inner := by
  unfold enter at entered ⊢
  split at entered
  · next here => rwa [if_pos here]
  next there =>
  rw [if_neg there]
  split at entered
  · next above => rwa [if_pos above]
  next below =>
  rw [if_neg below]
  cases located : locate directory name with
  | error error =>
    rw [located] at entered
    cases entered
  | ok child =>
    simp only [located, bind, Except.bind] at entered ⊢
    -- A name leads on only where a directory is, and that one is still there.
    by_cases is : disk.hasDirectory child = true
    · have still := (hasDirectory_put file content child).mpr (.inl is)
      rw [item?_of_hasDirectory is] at entered
      rw [item?_of_hasDirectory still]
      exact entered
    · rw [item?, if_neg is] at entered
      cases found : disk.file? child with
      | none =>
        rw [found] at entered
        cases entered
      | some held =>
        rw [found] at entered
        cases entered

theorem walk_put (file : place ≠ nullDevice) {start : Place} {names : List String} 
    (walked : disk.walk start names = .ok directory) :
    (disk.put place content).walk start names = .ok directory := by
  induction names generalizing start with
  | nil => exact walked
  | cons name rest ih =>
    rw [walk, List.foldlM_cons] at walked ⊢
    cases entered : disk.enter start name with
    | error error =>
      rw [entered] at walked
      cases walked
    | ok inner =>
      rw [entered] at walked
      rw [enter_put file entered]
      exact ih walked

theorem file?_put (file : place ≠ nullDevice) (content : String) :
    (disk.put place content).file? place = some (.text content) := by
  have none : (disk.files.filter fun file => file.1 != place).find? (fun file => file.1 == place) =
      none := by
    simp [List.find?_eq_none]
  rw [file?, if_neg file, put, if_neg file, List.find?_append, none]
  simp

/-- A path leads to the same place once a file is written there. -/
theorem Leads.put (leads : disk.Leads path place) (file : place ≠ nullDevice) (content : String) :
    (disk.put place content).Leads path place := by
  obtain ⟨taken, last, entered, located, free⟩ := leads
  refine .walked taken last (walk_put file entered) located ?_
  apply Bool.eq_false_iff.mpr
  intro made
  rcases (hasDirectory_put file content place).mp made with before | within
  · rw [free] at before
    cases before
  · rw [not_isWithin_self] at within
    cases within

theorem Leads.write (leads : disk.Leads path place) (content : String) :
    disk.write path content = .ok (disk.put place content) := by
  obtain ⟨taken, last, entered, located, free⟩ := leads
  simp [Disk.write, taken, last, entered, located, free, bind, Except.bind, pure, Except.pure]

theorem Leads.read (leads : disk.Leads path place)
    (holds : disk.file? place = some (.text content)) : disk.read path = .ok content := by
  obtain ⟨taken, last, entered, located, free⟩ := leads
  simp [Disk.read, look, item?, taken, last, entered, located, free, holds, bind, Except.bind, pure,
    Except.pure]

end Disk

/-- What is written to a file of a disk is read back. -/
theorem Host.ofDisk_keeps {disk : Disk} {path : String} {place : Place} (now : String)
    (leads : disk.Leads path place) (file : place ≠ Disk.nullDevice) :
    (Host.ofDisk now).Keeps path disk := by
  have stored (text : String) : ((Host.ofDisk now).write path text).run disk =
      (.ok (), disk.put place text) := by
    have written := leads.write text
    simp [Host.ofDisk, written]
    rfl
  constructor
  · intro text
    rw [stored]
  · intro text
    have back := (leads.put file text).read (Disk.file?_put file text)
    rw [stored]
    exact back

end TypeForm
