import SiteAudit.FileTree
import SiteAudit.Proofs.Path

/-!
# What is inside a directory

An entry lies inside a directory at the end of a row of names, one for each
entry on the way to it.  In a directory as a file system holds it, where names
are well formed and differ from their neighbours, the path that goes on by these
names leads to that entry and to no other one.
-/

namespace SiteAudit

def Directory.IsNamed : Directory → Prop
  | empty => True
  | file name _ rest => Path.IsName name ∧ rest.IsNamed
  | folder name contents rest =>
      Path.IsName name ∧ contents.IsNamed ∧ rest.IsNamed

def Entry.IsNamed : Entry → Prop
  | file _ => True
  | directory d => d.IsNamed

structure Directory.Admits (d : Directory) (name : String) : Prop where
  named : Path.IsName name
  short : name.utf8ByteSize ≤ FileTree.maxNameBytes
  new : ∀ entry ∈ d.entries, entry.1 ≠ name

instance (d : Directory) (name : String) : Decidable (d.Admits name) :=
  decidable_of_iff
    (Path.IsName name ∧ name.utf8ByteSize ≤ FileTree.maxNameBytes ∧
      ∀ entry ∈ d.entries, entry.1 ≠ name)
    ⟨fun ⟨named, short, new⟩ => ⟨named, short, new⟩,
      fun h => ⟨h.named, h.short, h.new⟩⟩

/-- A directory as a file system holds it: every entry, at any depth, has a name
of its own there. -/
def Directory.IsTree : Directory → Prop
  | empty => True
  | file name _ rest => rest.Admits name ∧ rest.IsTree
  | folder name contents rest =>
      rest.Admits name ∧ contents.IsTree ∧ rest.IsTree

def Entry.IsTree : Entry → Prop
  | file _ => True
  | directory d => d.IsTree

/-- One entry lies at the end of a row of names that starts at another one. -/
inductive Entry.Leads : Entry → List String → Entry → Prop
  | here (e : Entry) : Leads e [] e
  | inside {d : Directory} {name : String} {inner e : Entry}
      {names : List String}
      (entry : (name, inner) ∈ d.entries) (rest : Leads inner names e) :
      Leads (.directory d) (name :: names) e

namespace Directory

/-!
## Entries of a directory
-/

instance decidableIsTree : (d : Directory) → Decidable d.IsTree
  | empty => isTrue trivial
  | file name _ rest =>
      have := decidableIsTree rest
      inferInstanceAs (Decidable (rest.Admits name ∧ rest.IsTree))
  | folder name contents rest =>
      have := decidableIsTree contents
      have := decidableIsTree rest
      inferInstanceAs (Decidable (rest.Admits name ∧ contents.IsTree ∧
        rest.IsTree))

theorem mem_entries_of_find {d : Directory} {name : String} {e : Entry}
    (h : d.find? name = some e) :
    (name, e) ∈ d.entries := by
  induction d with
  | empty => cases h
  | file other bytes rest ih =>
      rw [find?] at h
      rw [entries, List.mem_cons]
      split at h
      · rename_i heq
        rcases beq_iff_eq.1 heq with rfl
        cases h
        exact .inl rfl
      · exact .inr (ih h)
  | folder other contents rest _ ih =>
      rw [find?] at h
      rw [entries, List.mem_cons]
      split at h
      · rename_i heq
        rcases beq_iff_eq.1 heq with rfl
        cases h
        exact .inl rfl
      · exact .inr (ih h)

theorem find_of_mem_entries {d : Directory} (tree : d.IsTree) {name : String}
    {e : Entry} (h : (name, e) ∈ d.entries) : d.find? name = some e := by
  induction d with
  | empty => cases h
  | file other bytes rest ih =>
      rw [find?]
      rcases List.mem_cons.1 h with h | h
      · cases h
        rw [if_pos (beq_iff_eq.2 rfl)]
      · have hne : other ≠ name := Ne.symm (tree.1.new _ h)
        rw [if_neg (by simpa using hne), ih tree.2 h]
  | folder other contents rest _ ih =>
      rw [find?]
      rcases List.mem_cons.1 h with h | h
      · cases h
        rw [if_pos (beq_iff_eq.2 rfl)]
      · have hne : other ≠ name := Ne.symm (tree.1.new _ h)
        rw [if_neg (by simpa using hne), ih tree.2.2 h]

theorem mem_entries_of_isTree {d : Directory} (tree : d.IsTree)
    {entry : String × Entry} (h : entry ∈ d.entries) :
    Path.IsName entry.1 ∧ entry.1.utf8ByteSize ≤ FileTree.maxNameBytes ∧
      entry.2.IsTree := by
  induction d with
  | empty => cases h
  | file name bytes rest ih =>
      rcases List.mem_cons.1 h with rfl | h
      · exact ⟨tree.1.named, tree.1.short, trivial⟩
      · exact ih tree.2 h
  | folder name contents rest _ ih =>
      rcases List.mem_cons.1 h with rfl | h
      · exact ⟨tree.1.named, tree.1.short, tree.2.1⟩
      · exact ih tree.2.2 h

theorem isNamed_of_isTree {d : Directory} (tree : d.IsTree) : d.IsNamed := by
  induction d with
  | empty => trivial
  | file name bytes rest ih => exact ⟨tree.1.named, ih tree.2⟩
  | folder name contents rest ihcontents ihrest =>
      exact ⟨tree.1.named, ihcontents tree.2.1, ihrest tree.2.2⟩

theorem mem_entries_of_isNamed {d : Directory} (named : d.IsNamed)
    {entry : String × Entry} (h : entry ∈ d.entries) :
    Path.IsName entry.1 ∧ entry.2.IsNamed := by
  induction d with
  | empty => cases h
  | file name bytes rest ih =>
      rcases List.mem_cons.1 h with rfl | h
      · exact ⟨named.1, trivial⟩
      · exact ih named.2 h
  | folder name contents rest _ ih =>
      rcases List.mem_cons.1 h with rfl | h
      · exact ⟨named.1, named.2.1⟩
      · exact ih named.2.2 h

/-!
## Directories inside
-/

theorem mem_folders_iff {d : Directory} {names : List String} :
    names ∈ d.folders ↔
      ∃ name inner, (name, .directory inner) ∈ d.entries ∧
        ∃ others ∈ [] :: inner.folders, names = name :: others := by
  induction d with
  | empty =>
      rw [folders, entries]
      simp
  | file other bytes rest ih =>
      rw [folders, ih, entries]
      simp
  | folder other contents rest _ ih =>
      rw [folders, List.cons_append, List.mem_cons, List.mem_append, ih,
        entries, List.mem_map]
      constructor
      · intro h
        rcases h with
          rfl | ⟨others, hothers, rfl⟩ | ⟨name, inner, hentry, hnames⟩
        · exact ⟨other, contents, List.mem_cons_self, [], List.mem_cons_self,
            rfl⟩
        · exact ⟨other, contents, List.mem_cons_self, others,
            List.mem_cons_of_mem _ hothers, rfl⟩
        · exact ⟨name, inner, List.mem_cons_of_mem _ hentry, hnames⟩
      · intro h
        rcases h with ⟨name, inner, hentry, others, hothers, rfl⟩
        rcases List.mem_cons.1 hentry with heq | hentry
        · cases heq
          rcases List.mem_cons.1 hothers with rfl | hothers
          · exact .inl rfl
          · exact .inr (.inl ⟨others, hothers, rfl⟩)
        · exact .inr (.inr ⟨name, inner, hentry, others, hothers, rfl⟩)

/-- The directories inside, and the directory itself, are what rows of names
lead to. -/
theorem mem_cons_folders_iff {d : Directory} {names : List String} :
    names ∈ [] :: d.folders ↔
      ∃ inner, Entry.Leads (.directory d) names (.directory inner) := by
  induction names generalizing d with
  | nil =>
      constructor
      · intro _
        exact ⟨d, .here _⟩
      · intro _
        exact List.mem_cons_self
  | cons name names ih =>
      rw [List.mem_cons, mem_folders_iff]
      constructor
      · intro h
        rcases h with h | ⟨name, inner, hentry, others, hothers, h⟩
        · cases h
        · cases h
          rcases ih.1 hothers with ⟨found, hleads⟩
          exact ⟨found, .inside hentry hleads⟩
      · intro h
        rcases h with ⟨found, hleads⟩
        cases hleads with
        | inside entry rest =>
            rename_i e
            cases e with
            | file bytes => cases rest
            | directory inner =>
                exact .inr ⟨name, inner, entry, names, ih.2 ⟨found, rest⟩, rfl⟩

end Directory

namespace Entry

theorem isName_of_leads {e found : Entry} {names : List String}
    (h : Leads e names found) (named : e.IsNamed) :
    ∀ name ∈ names, Path.IsName name := by
  induction h with
  | here e => exact List.forall_mem_nil _
  | inside entry rest ih =>
      rcases Directory.mem_entries_of_isNamed named entry with ⟨hname, hinner⟩
      exact List.forall_mem_cons.2 ⟨hname, ih hinner⟩

theorem leads_concat_iff {e found : Entry} {names : List String}
    {name : String} :
    Leads e (names ++ [name]) found ↔
      ∃ d, Leads e names (.directory d) ∧ (name, found) ∈ d.entries := by
  induction names generalizing e with
  | nil =>
      constructor
      · intro h
        cases h with
        | inside entry rest =>
            cases rest
            exact ⟨_, .here _, entry⟩
      · intro h
        rcases h with ⟨d, hd, hentry⟩
        cases hd
        exact .inside hentry (.here _)
  | cons other names ih =>
      constructor
      · intro h
        cases h with
        | inside entry rest =>
            rcases ih.1 rest with ⟨d, hd, hentry⟩
            exact ⟨d, .inside entry hd, hentry⟩
      · intro h
        rcases h with ⟨d, hd, hentry⟩
        cases hd with
        | inside entry rest => exact .inside entry (ih.2 ⟨d, rest, hentry⟩)

end Entry

namespace FileTree

/-!
## Following a path
-/

theorem follow_keeps {P : Entry → Prop}
    (keeps : ∀ (d : Directory) (name : String) (e : Entry), P (.directory d) →
      d.find? name = some e → P e)
    {above : List Directory} {e found : Entry} {parts : List String}
    (habove : ∀ d ∈ above, P (.directory d)) (he : P e)
    (h : follow above e parts = .ok found) : P found := by
  fun_induction follow above e parts with
  | case1 => cases h; exact he
  | case2 => cases h
  | case3 d part rest up ih => exact ih habove he h
  | case4 d part rest up outer others ih =>
      rw [List.forall_mem_cons] at habove
      exact ih habove.2 habove.1 h
  | case5 => cases h
  | case6 => cases h
  | case7 above d part rest down short e hfind ih =>
      exact ih (List.forall_mem_cons.2 ⟨he, habove⟩) (keeps d part e he hfind) h

theorem follow_into {above : List Directory} {d : Directory} {part : String}
    {e : Entry} (down : part ≠ "..") (short : part.utf8ByteSize ≤ maxNameBytes)
    (hfind : d.find? part = some e) (rest : List String) :
    follow above (.directory d) (part :: rest) =
      follow (d :: above) e rest := by
  have hup : (part == "..") = false := beq_eq_false_iff_ne.2 down
  rw [follow.eq_def]
  simp only [hup, Bool.false_eq_true, if_false, if_neg (Nat.not_lt.2 short),
    hfind]

/-- A longer row of parts is followed from where its beginning leads to. -/
theorem follow_append {above : List Directory} {e found : Entry}
    {parts : List String} (h : follow above e parts = .ok found) :
    ∃ outer, ∀ more, follow above e (parts ++ more) =
      follow outer found more := by
  fun_induction follow above e parts with
  | case1 above e =>
      cases h
      exact ⟨above, fun more => rfl⟩
  | case2 => cases h
  | case3 d part rest up ih =>
      rcases ih h with ⟨outer, houter⟩
      refine ⟨outer, fun more => ?_⟩
      rw [List.cons_append, follow, if_pos up]
      exact houter more
  | case4 d part rest up first others ih =>
      rcases ih h with ⟨outer, houter⟩
      refine ⟨outer, fun more => ?_⟩
      rw [List.cons_append, follow, if_pos up]
      exact houter more
  | case5 => cases h
  | case6 => cases h
  | case7 above d part rest down short e hfind ih =>
      rcases ih h with ⟨outer, houter⟩
      refine ⟨outer, fun more => ?_⟩
      rw [List.cons_append,
        follow_into (by simpa using down) (Nat.not_lt.1 short) hfind]
      exact houter more

theorem follow_of_leads {e found : Entry} {names : List String}
    (h : Entry.Leads e names found) (tree : e.IsTree) (above : List Directory) :
    follow above e names = .ok found := by
  induction h generalizing above with
  | here e => cases e <;> rfl
  | @inside d name inner found names entry rest ih =>
      rcases Directory.mem_entries_of_isTree tree entry with
        ⟨named, short, inside⟩
      rw [follow_into named.notUp short
        (Directory.find_of_mem_entries tree entry)]
      exact ih inside (d :: above)

theorem lookup_of_entry {t : FileTree} {p : Path} {e : Entry}
    (h : t.entry? p = .ok (some e)) :
    t.lookup p = .ok e := by
  unfold entry? at h
  cases hlookup : t.lookup p with
  | ok found =>
      rw [hlookup] at h
      cases h
      rfl
  | error failure =>
      rw [hlookup] at h
      cases failure <;> cases h

theorem isUsable_of_lookup {t : FileTree} {p : Path} {e : Entry}
    (h : t.lookup p = .ok e) : p.isUsable = true := by
  unfold lookup at h
  cases husable : p.isUsable with
  | true => rfl
  | false =>
      rw [husable] at h
      cases h

theorem lookup_eq_follow {t : FileTree} {p : Path} (usable : p.isUsable = true)
    (short : p.text.utf8ByteSize ≤ maxPathBytes) :
    t.lookup p = follow [] (.directory t.root) (t.fromRoot p) := by
  rw [lookup, usable, Bool.not_true, if_neg Bool.false_ne_true,
    if_neg (Nat.not_lt.2 short)]

theorem follow_of_lookup {t : FileTree} {p : Path} {e : Entry}
    (h : t.lookup p = .ok e) :
    follow [] (.directory t.root) (t.fromRoot p) = .ok e := by
  unfold lookup at h
  repeat' split at h
  · cases h
  · cases h
  · exact h

theorem isNamed_of_entry {t : FileTree} (named : t.root.IsNamed) {p : Path}
    {e : Entry} (h : t.entry? p = .ok (some e)) : e.IsNamed := by
  have hfollow := follow_of_lookup (lookup_of_entry h)
  have hroot : (Entry.directory t.root).IsNamed := named
  have keeps : ∀ (d : Directory) (name : String) (e : Entry),
      (Entry.directory d).IsNamed →
      d.find? name = some e → e.IsNamed := by
    intro d name e hd hfind
    exact (Directory.mem_entries_of_isNamed hd
      (Directory.mem_entries_of_find hfind)).2
  exact follow_keeps keeps (fun _ hd =>
    absurd hd List.not_mem_nil) hroot hfollow

theorem isTree_of_entry {t : FileTree} (tree : t.root.IsTree) {p : Path}
    {e : Entry} (h : t.entry? p = .ok (some e)) : e.IsTree := by
  have hfollow := follow_of_lookup (lookup_of_entry h)
  have hroot : (Entry.directory t.root).IsTree := tree
  have keeps : ∀ (d : Directory) (name : String) (e : Entry),
      (Entry.directory d).IsTree →
      d.find? name = some e → e.IsTree := by
    intro d name e hd hfind
    exact (Directory.mem_entries_of_isTree hd
      (Directory.mem_entries_of_find hfind)).2.2
  exact follow_keeps keeps (fun _ hd =>
    absurd hd List.not_mem_nil) hroot hfollow

end FileTree
end SiteAudit
