import ClusterHosts.Files
import ClusterHosts.Proofs.Contact

/-! # What actions leave untouched

An action keeps what is seen of a world if the world looks the same after it. What consists of such
actions is one itself. Making a directory touches the paths above it, which are all shorter
(`Files.createDirectories_keeps`).
-/

namespace ClusterHosts

variable {σ α β ν : Type}

/-- An action changes nothing of what is seen of a world. -/
def Keeps (view : σ → ν) (action : StateM σ α) : Prop :=
  ∀ world, view (action.run world).2 = view world

namespace Keeps

variable {view : σ → ν}

theorem pure (value : α) : Keeps view (pure value) := fun _ => rfl

/-- What follows an action matters for the results of the action only. -/
theorem bind {action : StateM σ α} {next : α → StateM σ β} (first : Keeps view action)
    (rest : ∀ world, Keeps view (next (action.run world).1)) : Keeps view (action >>= next) := by
  intro world
  rw [run_bind, rest world, first world]

end Keeps

/-! ### Paths -/

namespace Path

/-- The way to something in a directory depends on its name at the end only. -/
theorem exists_join_eq (directory : SystemText) :
    ∃ lead, ∀ name, isAbsolute name = false → (join directory name).bytes = lead ++ name.bytes := by
  by_cases empty : directory.isEmpty = true
  · refine ⟨[], fun name relative => ?_⟩
    rw [join, empty, Bool.or_true, if_pos rfl, List.nil_append]
  by_cases ended : directory.bytes.getLast? == some slash
  · refine ⟨directory.bytes, fun name relative => ?_⟩
    rw [join, relative, Bool.false_or, if_neg empty, if_pos ended]
  · refine ⟨directory.bytes ++ [slash], fun name relative => ?_⟩
    rw [join, relative, Bool.false_or, if_neg empty, if_neg ended, List.append_assoc,
      List.singleton_append]

/-- Dropping slashes makes a path no longer. -/
theorem length_trimEnd_le (backwards : List UInt8) :
    (trimEnd backwards).length ≤ backwards.length := by
  fun_induction trimEnd backwards with
  | case1 => exact Nat.le_refl _
  | case2 => exact Nat.le_refl _
  | case3 byte next rest dropped ih => exact Nat.le_succ_of_le ih
  | case4 => exact Nat.le_refl _

/-- What is left of a path without what counts for nothing is the root, or ends with no slash. -/
theorem trimEnd_eq_of_head? {backwards : List UInt8}
    (head : (trimEnd backwards).head? = some slash) : trimEnd backwards = [slash] := by
  fun_induction trimEnd backwards with
  | case1 => cases head
  | case2 byte =>
      obtain rfl := Option.some.inj head
      rfl
  | case3 byte next rest dropped ih => exact ih head
  | case4 byte next rest kept => exact absurd (.inl (Option.some.inj head)) kept

/-- The directory that a path lies in has a shorter path. -/
theorem length_parent_lt {path parent : SystemText} (lies : parent? path = some parent) :
    parent.length < path.length := by
  have trimmed := length_trimEnd_le path.bytes.reverse
  rw [List.length_reverse] at trimmed
  simp only [parent?, Option.ite_none_left_eq_some, not_or] at lies
  obtain ⟨⟨notEmpty, notRoot⟩, made⟩ := lies
  cases shape : trimEnd path.bytes.reverse with
  | nil => exact absurd shape notEmpty
  | cons last rest =>
      have named : last ≠ slash := by
        rintro rfl
        exact notRoot (trimEnd_eq_of_head? (congrArg List.head? shape))
      have passed : (last :: rest).dropWhile (· != slash) = rest.dropWhile (· != slash) :=
        List.dropWhile_cons_of_pos (bne_iff_ne.2 named)
      rw [shape, passed] at made
      rw [shape] at trimmed
      rw [← Option.some.inj made, SystemText.length, List.length_reverse]
      calc (trimEnd (rest.dropWhile (· != slash))).length
          ≤ (rest.dropWhile (· != slash)).length := length_trimEnd_le _
        _ ≤ rest.length := (List.dropWhile_sublist _).length_le
        _ < path.length := trimmed

end Path

/-! ### Directories and texts -/

namespace Files

variable {files : Files (StateM σ)} {view : σ → ν} {path : SystemText}

/-- Making sure of a directory leaves what making it and looking for it leave. -/
theorem ensureDirectory_keeps (creates : Keeps view (files.createDirectory path))
    (looks : Keeps view (files.isDirectory path)) : Keeps view (files.ensureDirectory path) := by
  refine creates.bind fun world => ?_
  split
  · exact .pure _
  · refine looks.bind fun world => ?_
    split
    · exact .pure _
    · exact .pure _

/-- On the way up from a path that is shorter than a bound no path is touched that is not. -/
theorem createUpwards_keeps {bound : Nat}
    (creates : ∀ path : SystemText, path.length < bound → Keeps view (files.createDirectory path))
    (looks : ∀ path, Keeps view (files.isDirectory path)) (steps : Nat)
    (below : path.length < bound) : Keeps view (files.createUpwards steps path) := by
  -- Each step upwards is at a shorter path, so that the bound goes with the induction.
  induction steps generalizing path with
  | zero => exact .pure _
  | succ steps ih =>
      have ensures := ensureDirectory_keeps (creates path below) (looks path)
      rw [createUpwards]
      split
      · exact .pure _
      · refine ensures.bind fun world => ?_
        split
        · exact .pure _
        · cases lies : Path.parent? path with
          | none => exact .pure _
          | some parent =>
              refine (ih (Nat.lt_trans (Path.length_parent_lt lies) below)).bind fun world => ?_
              split
              · exact .pure _
              · exact ensures
        · exact .pure _

/-- Making a directory and those above it leaves what making each of them leaves. -/
theorem createDirectories_keeps {bound : Nat}
    (creates : ∀ path : SystemText, path.length < bound → Keeps view (files.createDirectory path))
    (looks : ∀ path, Keeps view (files.isDirectory path)) (below : path.length < bound) :
    Keeps view (files.createDirectories path) :=
  createUpwards_keeps creates looks _ below

/-- Reading a text touches nothing that reading bytes does not touch. -/
theorem readText_keeps (reads : Keeps view (files.read path)) :
    Keeps view (files.readText path) := by
  refine reads.bind fun world => ?_
  split
  · exact .pure _
  · split
    · exact .pure _
    · exact .pure _

end Files

/-! ### Clusters -/

/-- Neither connecting to clusters nor searching them changes anything of what is seen of a
world. -/
structure Clusters.Keep (clusters : Clusters (StateM σ)) (view : σ → ν) : Prop where
  connect : ∀ target, Keeps view (clusters.connect target)
  search : ∀ target world searcher, ((clusters.connect target).run world).1 = .ok searcher →
    ∀ query, Keeps view (searcher query)

/-- A resolution touches nothing that its clusters do not touch. -/
theorem Inventory.resolve_keeps {clusters : Clusters (StateM σ)} {view : σ → ν}
    (keep : clusters.Keep view) (session : Session) (arguments : Attributes) :
    Keeps view (resolve clusters session arguments) := by
  unfold resolve
  cases target session arguments with
  | error error => exact .pure _
  | ok target =>
      refine (keep.connect target).bind fun world => ?_
      cases connects : ((clusters.connect target).run world).1 with
      | error cause => exact .pure _
      | ok searcher =>
          simp only [search]
          cases NodeFilter.ofArguments kind arguments with
          | error error => exact .pure _
          | ok filter =>
              refine (keep.search target world searcher connects _).bind fun world => ?_
              split
              · exact .pure _
              · exact .pure _

end ClusterHosts
