import SpaServer.Proofs.Assets.Confinement

/-!
# The root above a file

Where the lookup finds a file under one name, it finds the root itself as a directory, whatever
links there are. This is more than that a file has a directory above it: the name might be a link,
and the place that it leads to has to be one that lies below the root.
-/

namespace SpaServer.Node

variable {tree : Node} {root name : Text}

/-- Resolving a name behind another one begins with resolving the other one. -/
theorem resolution_pair (tree : Node) (hroot : ProperName root) (name : Text) :
    (∃ fresh place ends, tree.resolution [root] = .settled place ends ∧
        tree.resolution [root, name] = tree.resolve fresh ends place [name]) ∨
      ∃ place, tree.resolution [root] = .looping place ∧
        tree.resolution [root, name] = .looping (place.written [name]) := by
  have hend : ∀ fresh ends place, tree.resolve fresh ends place [] = .settled place ends := by
    intro fresh ends place
    rw [resolve]
  have hstep : ∀ rest, tree.resolution (root :: rest) =
      tree.resolve (tree.links.map .inside) [] .home (root :: rest) := fun _ => rfl
  rw [hstep, hstep, resolve.eq_2, resolve.eq_2]
  rw [if_neg hroot.not_stay, if_neg hroot.ne_dots, if_neg hroot.not_stay, if_neg hroot.ne_dots]
  simp only [List.lookup_nil]
  cases hnext : tree.at? (Place.home.child root) with
  | none => exact Or.inl ⟨_, _, _, hend _ _ _, rfl⟩
  | some node =>
      cases node with
      | link target =>
          simp only
          split
          · split
            · exact Or.inl ⟨_, _, _, hend _ _ _, rfl⟩
            · rename_i place _
              exact Or.inr ⟨place, rfl, rfl⟩
          · exact Or.inr ⟨_, rfl, rfl⟩
      | _ => exact Or.inl ⟨_, _, _, hend _ _ _, rfl⟩

theorem child_ne_self (place : Place) : place.child name ≠ place := by
  cases place <;> simp [Place.child]

theorem name_child (place : Place) : (place.child name).name = name := by
  cases place <;> simp [Place.child, Place.name, Place.path]

theorem written_single (hname : ProperName name) (place : Place) :
    place.written [name] = place.child name := by
  have hnames : place.written [name] = place.along [name] := by
    rw [Place.written.eq_def]
    split <;> simp_all
  rw [hnames, Place.along_proper (by simpa using hname)]
  rfl

/-- A name behind the root stays the last one if it is no link. -/
theorem realPlace_pair (hroot : ProperName root) (hname : ProperName name)
    (hplain : ∀ place ends, tree.resolution [root] = .settled place ends →
      tree.NoLinkAt (place.child name)) :
    tree.realPlace [root, name] = (tree.realPlace [root]).child name := by
  rcases resolution_pair tree hroot name with
    ⟨fresh, place, ends, hfirst, hboth⟩ | ⟨place, hfirst, hboth⟩
  · have hends := (isStraight_of_settled hfirst).2
    have hlink := hplain place ends hfirst
    have hnew : ends.lookup (place.child name) = none := by
      cases hlookup : ends.lookup (place.child name) with
      | none => rfl
      | some known => exact absurd hlink (hends.lookup hlookup).1
    rw [resolve_down hname hnew hlink, resolve] at hboth
    rw [realPlace_of_settled hboth, realPlace_of_settled hfirst]
  · rw [realPlace_of_looping hfirst, realPlace_of_looping hboth, written_single hname]

theorem realPlace_ne_of_file {content : Bytes} (hroot : ProperName root) (hname : ProperName name)
    (hstat : tree.stat (tree.realPlace [root]) = .ok (.file content)) :
    tree.realPlace [root, name] ≠ tree.realPlace [root] := by
  have hplain : ∀ place ends, tree.resolution [root] = .settled place ends →
      tree.NoLinkAt (place.child name) := by
    intro place ends hsettled target hlink
    obtain ⟨entries, hentries⟩ := tree.isDirAt_of_child hlink
    rw [realPlace_of_settled hsettled] at hstat
    rw [at?_of_stat (isStraight_of_settled hsettled).1 hstat] at hentries
    simp at hentries
  rw [realPlace_pair hroot hname hplain]
  exact child_ne_self _

theorem not_file_of_leads {here there : Place} {names : List Text} {content : Bytes}
    (hhere : ∀ path, here ≠ .inside path) (hleads : tree.Leads here names there) :
    tree.at? there ≠ some (.file content) := by
  intro hfile
  have houtside : ∀ path, there ≠ .inside path := by
    induction hleads with
    | stop here => exact hhere
    | stay _ _ _ ih => exact ih hhere hfile
    | @up here there rest _ _ ih =>
        refine ih ?_ hfile
        cases here with
        | inside path => exact absurd rfl (hhere path)
        | _ => simp [Place.parent]
    | @down here there name rest _ _ _ _ ih =>
        refine ih ?_ hfile
        cases here with
        | inside path => exact absurd rfl (hhere path)
        | _ => simp [Place.child]
    | @follow here there name target rest _ hlink _ _ =>
        refine absurd hlink (tree.noLinkAt_of_not_inside ?_ target)
        cases here with
        | inside path => exact absurd rfl (hhere path)
        | _ => simp [Place.child]
  simpa [empty] using tree.eq_empty_of_not_inside houtside hfile

theorem pathBytes_append (front back : List Text) :
    pathBytes (.inside front) ≤ pathBytes (.inside (front ++ back)) := by
  simp only [pathBytes, namesBytes, Text.utf8, List.flatMap_append, List.length_append]
  omega

/-- **The root above a file is a directory.** -/
theorem lookup_root_of_file {place : Place} {content : Bytes} (hroot : ProperName root)
    (hname : ProperName name)
    (hlookup : tree.lookup root [name] = .ok (some ⟨place, .file content⟩)) :
    tree.lookup root [] = .ok (some ⟨tree.realPlace [root], .directory⟩) := by
  obtain ⟨hplace, hbelow, node, hstat, hentity⟩ := lookup_eq_some hlookup
  obtain rfl := eq_file_of_entity hentity
  simp only at hplace hbelow hstat
  obtain ⟨hshort, hwalk⟩ : pathBytes place ≤ maxPathBytes ∧
      tree.walk maxLinks place.base place.path = .ok (.file content) := by
    rw [stat] at hstat
    split at hstat
    · simp at hstat
    · rename_i hshort
      exact ⟨Nat.le_of_not_lt hshort, hstat⟩
  have hinside : ∃ path, place = .inside path := by
    obtain ⟨location, hleads, hfile⟩ := leads_of_walk hwalk
    cases place with
    | inside path => exact ⟨path, rfl⟩
    | _ => exact absurd hfile (not_file_of_leads (by simp [Place.base]) hleads)
  obtain ⟨path, rfl⟩ := hinside
  obtain ⟨above, habove, back, rfl⟩ :
      ∃ above, tree.realPlace [root] = .inside above ∧ ∃ back, path = above ++ back := by
    cases hreal : tree.realPlace [root] with
    | inside above =>
        rw [hreal, Place.contains, List.isPrefixOf_iff_prefix] at hbelow
        obtain ⟨back, hback⟩ := hbelow
        exact ⟨above, rfl, back, hback.symm⟩
    | _ => simp [hreal, Place.contains] at hbelow
  -- The file does not stand at the place of the root, for its name would lead on from there.
  have hback : back ≠ [] := by
    rintro rfl
    rw [List.append_nil] at hplace hstat
    rw [← habove] at hstat
    exact realPlace_ne_of_file hroot hname hstat (by rw [← hplace, habove])
  have hdir : ∃ entries, tree.stat (.inside above) = .ok (.dir entries) := by
    cases back with
    | nil => exact absurd rfl hback
    | cons next back =>
        obtain ⟨entries, hentries⟩ := walk_front hwalk
        refine ⟨entries, ?_⟩
        rw [stat, if_neg (Nat.not_lt.2 (Nat.le_trans (pathBytes_append above _) hshort))]
        exact hentries
  obtain ⟨entries, hentries⟩ := hdir
  have hself : (Place.inside above).contains (.inside above) = true := by
    rw [habove] at hbelow
    exact Place.contains_self hbelow
  rw [lookup]
  simp [habove, hself, hentries, entity]

end SpaServer.Node
