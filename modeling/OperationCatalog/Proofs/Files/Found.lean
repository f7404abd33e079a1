import OperationCatalog.Proofs.Files.Glob
import OperationCatalog.Proofs.Files.Proper

/-!
# Texts along a pattern

A pattern is followed component by component, and what is found for a component is put after what
was found for those before it. So what holds of a text that is found can be shown along the pattern
(`OperationCatalog.Glob.of_mem_expand`): it holds of a pattern that finds itself, and it is kept
when a name of the tree, or the component itself, is put after a text. On the way it is used that a
pattern is its last component, put after what stands before it
(`OperationCatalog.Glob.ofString_splitLast`), however many slashes are in between.

A pattern is at fault only if it, or the root, has a character that no path has
(`OperationCatalog.Glob.exists_expand`).
-/

namespace OperationCatalog.Glob

open FileTree (IsName)

/-! ### The last component of a pattern -/

/-- What stands before a last component, read backwards: slashes, and then what does not start with
one. -/
theorem exists_slashes (back : List Char) : ∃ n, back.dropWhile (· != '/') =
      List.replicate n '/' ++ (back.dropWhile (· != '/')).dropWhile (· == '/') ∧
    ∀ c rest, (back.dropWhile (· != '/')).dropWhile (· == '/') = c :: rest → c ≠ '/' ∧ n ≠ 0 := by
  generalize hfront : back.dropWhile (· != '/') = front
  have hslashes : front.takeWhile (· == '/') =
      List.replicate (front.takeWhile (· == '/')).length '/' :=
    List.eq_replicate_of_mem fun c hc => by simpa using List.mem_takeWhile_imp hc
  refine ⟨(front.takeWhile (· == '/')).length, ?_, fun c rest hdir => ?_⟩
  · rw [← hslashes, List.takeWhile_append_dropWhile]
  · have hc : c ≠ '/' := by
      have hhead := List.head?_dropWhile_not (· == '/') front
      rw [hdir] at hhead
      simpa using hhead
    refine ⟨hc, fun hnone => ?_⟩
    -- what is left of the text starts with a slash
    have hhead := List.head?_dropWhile_not (· != '/') back
    rw [List.length_eq_zero_iff] at hnone
    rw [hfront, ← List.takeWhile_append_dropWhile (p := (· == '/')) (l := front), hnone, hdir]
      at hhead
    exact hc (by simpa using hhead)

/-- **A text and its last component**: before it stand only slashes, or a text that is not only
slashes and slashes after it. -/
theorem splitLast_cases (s : String) :
    (∃ n, (splitLast s).1.toList = List.replicate n '/' ∧
      s.toList = List.replicate n '/' ++ (splitLast s).2.toList) ∨
    (∃ c ∈ (splitLast s).1.toList, c ≠ '/') ∧ ∃ n, s.toList =
      (splitLast s).1.toList ++ List.replicate (n + 1) '/' ++ (splitLast s).2.toList := by
  obtain ⟨n, hfront, hdir⟩ := exists_slashes s.toList.reverse
  have hs : s.toList = (s.toList.reverse.dropWhile (· != '/')).reverse ++
      (s.toList.reverse.takeWhile (· != '/')).reverse := by
    rw [← List.reverse_append, List.takeWhile_append_dropWhile, List.reverse_reverse]
  rw [hfront, List.reverse_append, List.reverse_replicate] at hs
  rcases hcase : (s.toList.reverse.dropWhile (· != '/')).dropWhile (· == '/') with _ | ⟨c, rest⟩
  · left
    rw [hcase, List.append_nil] at hfront
    rw [hcase, List.reverse_nil, List.nil_append] at hs
    refine ⟨n, ?_, ?_⟩
    · simp [splitLast, hfront]
    · simpa [splitLast] using hs
  · right
    obtain ⟨hc, hn⟩ := hdir c rest hcase
    have hfirst : (splitLast s).1.toList = (c :: rest).reverse := by simp [splitLast, hcase]
    refine ⟨⟨c, by simp [hfirst], hc⟩, n - 1, ?_⟩
    rw [hfirst, Nat.sub_add_cancel (Nat.one_le_iff_ne_zero.mpr hn), ← hcase]
    simpa [splitLast] using hs

theorem slash_notMem_splitLast (s : String) : '/' ∉ (splitLast s).2.toList := by
  intro h
  simp only [splitLast, String.toList_ofList, List.mem_reverse] at h
  simpa using List.mem_takeWhile_imp h

theorem mem_of_mem_splitLast {s : String} {c : Char}
    (h : c ∈ (splitLast s).1.toList ∨ c ∈ (splitLast s).2.toList) : c ∈ s.toList := by
  rcases splitLast_cases s with ⟨n, hfirst, hs⟩ | ⟨-, n, hs⟩
  · rw [hs, ← hfirst]
    exact List.mem_append.mpr h
  · rw [hs]
    exact List.mem_append.mpr (h.imp_left (List.mem_append_left _))

/-- Slashes at the end of a text say nothing, unless there are only slashes. -/
theorem ofString_append_slashes {text : String} {c : Char} (hc : c ∈ text.toList)
    (hslash : c ≠ '/') (n : ℕ) :
    Path.ofString (text ++ String.ofList (List.replicate n '/')) = Path.ofString text := by
  induction n with
  | zero => simp
  | succ n ih =>
    have hmem : c ∈ (text ++ String.ofList (List.replicate n '/')).toList := by simp [hc]
    have hall : text ++ String.ofList (List.replicate (n + 1) '/') =
        text ++ String.ofList (List.replicate n '/') ++ "/" := by
      rw [← String.toList_inj]
      simp [List.replicate_succ']
    rw [hall, Path.ofString_append_slash hmem hslash, ih]

/-- **The path of a pattern** is that of what stands before its last component, and the
component. -/
theorem ofString_splitLast (s : String) : Path.ofString s =
    (Path.ofString (splitLast s).1).join (.ofString (splitLast s).2) := by
  have hrelative : (splitLast s).2.startsWith "/" = false := by
    rw [← Path.isAbsolute_ofString, isAbsolute_splitLast]
  rcases splitLast_cases s with ⟨n, hfirst, hs⟩ | ⟨⟨c, hc, hslash⟩, n, hs⟩
  · cases n with
    | zero =>
      rw [List.replicate_zero] at hfirst hs
      rw [List.nil_append] at hs
      have hnone : (splitLast s).1 = "" := String.toList_eq_nil_iff.mp hfirst
      have hall : s = (splitLast s).2 := String.toList_inj.mp hs
      rw [hnone, Path.ofString_empty, Path.nowhere_join, ← hall]
    | succ n =>
      have hbefore : (splitLast s).1 = String.ofList (List.replicate n '/') ++ "/" := by
        rw [← String.toList_inj, hfirst]
        simp [List.replicate_succ']
      have hall : s = String.ofList (List.replicate n '/') ++ "/" ++ (splitLast s).2 := by
        rw [← String.toList_inj, hs]
        simp [List.replicate_succ']
      rw [hbefore, ← Path.ofString_append hrelative, ← hall]
  · have hall : s = (splitLast s).1 ++ String.ofList (List.replicate n '/') ++ "/" ++
        (splitLast s).2 := by
      rw [← String.toList_inj, hs]
      simp [List.replicate_succ']
    have hmem : c ∈ ((splitLast s).1 ++ String.ofList (List.replicate n '/')).toList := by simp [hc]
    rw [← ofString_append_slashes hc hslash n, ← Path.ofString_append_slash hmem hslash,
      ← Path.ofString_append hrelative, ← hall]

/-! ### Special characters -/

/-- Whether a character is special in patterns. -/
def IsSpecial (c : Char) : Prop := c = '*' ∨ c = '?' ∨ c = '['

theorem hasMagic_iff {s : String} : hasMagic s = true ↔ ∃ c ∈ s.toList, IsSpecial c := by
  simp [hasMagic, IsSpecial, or_assoc]

theorem not_isSpecial_slash : ¬IsSpecial '/' := by simp [IsSpecial]

/-- **A pattern has a special character** before its last component or in it. -/
theorem hasMagic_splitLast (s : String) :
    hasMagic s = (hasMagic (splitLast s).1 || hasMagic (splitLast s).2) := by
  have hslashes : ∀ n, ¬∃ c ∈ List.replicate n '/', IsSpecial c := by
    rintro n ⟨c, hc, hspecial⟩
    exact not_isSpecial_slash (List.eq_of_mem_replicate hc ▸ hspecial)
  rw [Bool.eq_iff_iff, Bool.or_eq_true, hasMagic_iff, hasMagic_iff, hasMagic_iff]
  rcases splitLast_cases s with ⟨n, hfirst, hs⟩ | ⟨-, n, hs⟩
  · rw [hfirst, hs]
    simp only [List.mem_append, or_and_right, exists_or]
  · -- the slashes in between are not special
    rw [hs]
    simp only [List.mem_append, or_and_right, exists_or]
    exact or_congr_left (or_iff_left (hslashes _))

/-- **A text has a special character** exactly if one of the components of its path has one. -/
theorem hasMagic_iff_exists_part {s : String} :
    hasMagic s = true ↔ ∃ part ∈ (Path.ofString s).parts, hasMagic part = true := by
  have hidle : ∀ part, hasMagic part = true → (part != "" && part != ".") = true := by
    intro part hmagic
    rw [Path.busy_iff]
    rintro (rfl | rfl) <;> simp [hasMagic] at hmagic
  have hslash : ∀ c, IsSpecial c → c ≠ '/' := by
    rintro c hc rfl
    exact not_isSpecial_slash hc
  simp only [hasMagic_iff, Path.ofString, List.mem_filter]
  constructor
  · rintro ⟨c, hc, hspecial⟩
    obtain ⟨part, hpart, hmem⟩ := (Path.mem_toList_iff (hslash c hspecial)).mp hc
    exact ⟨part, ⟨hpart, hidle part (hasMagic_iff.mpr ⟨c, hmem, hspecial⟩)⟩, c, hmem, hspecial⟩
  · rintro ⟨part, ⟨hpart, -⟩, c, hmem, hspecial⟩
    exact ⟨c, (Path.mem_toList_iff (hslash c hspecial)).mpr ⟨part, hpart, hmem⟩, hspecial⟩

/-! ### Names that are found -/

theorem mem_joinText {dir name : String} {c : Char} (h : c ∈ (joinText dir name).toList) :
    c ∈ dir.toList ∨ c = '/' ∨ c ∈ name.toList := by
  unfold joinText at h
  split at h
  · exact .inr (.inr h)
  · split at h
    · exact (List.mem_append.mp (String.toList_append ▸ h)).imp_right .inr
    · simpa [or_assoc] using h

theorem mem_joinPlace {dir name : String} {c : Char} (h : c ∈ (joinPlace dir name).toList) :
    c ∈ dir.toList ∨ c = '/' ∨ c ∈ name.toList := by
  unfold joinPlace at h
  split at h
  · exact .inr (.inr h)
  · split at h
    · exact .inl h
    · exact mem_joinText h

/-- **A text that leads inwards**, by names that files can have. -/
structure Inner (s : String) : Prop where
  /-- It does not start at the root. -/
  root : (Path.ofString s).root = ""
  /-- Its components are names. -/
  names : ∀ part ∈ (Path.ofString s).parts, IsName part
  /-- It has no character that no path has. -/
  writable : '\x00' ∉ s.toList

theorem inner_empty : Inner "" := ⟨rfl, nofun, by simp⟩

theorem inner_of_isName {name : String} (h : IsName name) : Inner name := by
  have hpath := ofString_of_leading h.leading
  exact ⟨by rw [hpath], by rw [hpath]; exact List.forall_mem_singleton.mpr h, h.writable⟩

theorem Inner.isAbsolute {s : String} (h : Inner s) : (Path.ofString s).isAbsolute = false := by
  simp [Path.isAbsolute, h.root]

theorem Inner.joinText {dir name : String} (hdir : Inner dir) (hname : Inner name) :
    Inner (joinText dir name) := by
  have hpath := ofString_joinText dir name
  rw [Path.join, hname.isAbsolute, if_neg (by simp)] at hpath
  refine ⟨by rw [hpath]; exact hdir.root, ?_, fun hnul => ?_⟩
  · rw [hpath]
    exact List.forall_mem_append.mpr ⟨hdir.names, hname.names⟩
  · rcases mem_joinText hnul with hnul | hnul | hnul
    · exact hdir.writable hnul
    · exact absurd hnul (by decide)
    · exact hname.writable hnul

section Trees

variable {t : FileTree} {dirsOnly : Bool}

theorem inner_of_mem_names (h : t.Proper) : ∀ s ∈ names dirsOnly t, Inner s := by
  cases h with
  | file content => simp [names, FileTree.entries]
  | dir nodup hnames inner =>
    intro s hs
    obtain ⟨entry, hentry, hs⟩ := List.mem_flatMap.mp hs
    unfold entryName at hs
    split at hs
    · rw [List.mem_singleton.mp hs]
      exact inner_of_isName (hnames entry hentry)
    · simp at hs

/-- **What is listed below a directory**, at any depth, leads inwards. -/
theorem inner_of_mem_namesBelow (h : t.Proper) : ∀ s ∈ namesBelow dirsOnly t, Inner s := by
  induction h with
  | file content => simp [namesBelow]
  | dir nodup hnames inner ih =>
    intro s hs
    rw [namesBelow_dir] at hs
    obtain ⟨entry, hentry, hs⟩ := List.mem_flatMap.mp hs
    have hname := inner_of_isName (hnames entry hentry)
    unfold entryNames at hs
    split at hs
    · simp at hs
    · rcases List.mem_cons.mp hs with rfl | hs
      · exact hname
      · obtain ⟨below, hbelow, rfl⟩ := List.mem_map.mp hs
        exact hname.joinText (ih entry hentry below hbelow)

end Trees

/-! ### Along a pattern -/

section Along

variable {w : Workspace} (hw : w.root.Proper)

include hw

theorem inner_of_mem_listing {list : FileTree → List String}
    (hlist : ∀ t : FileTree, t.Proper → ∀ s ∈ list t, Inner s) (place : String) :
    ∀ s ∈ w.listing list place, Inner s := by
  rcases hlookup : w.lookup place with fault | t
  · rw [Workspace.listing_of_error hlookup]
    nofun
  · obtain ⟨here, -, hat⟩ := Workspace.lookup_eq_ok_iff.mp hlookup
    rw [Workspace.listing_of_ok hlookup]
    exact hlist t (hw.at? hat).1

/-- **What a component finds** leads inwards, or it is the component itself. -/
theorem of_mem_matchingNames {place component : String} {dirsOnly : Bool} {found : List String}
    (hfound : matchingNames w place component dirsOnly = .ok found) :
    ∀ s ∈ found, Inner s ∨ s = component := by
  unfold matchingNames at hfound
  split at hfound
  · split at hfound
    · obtain rfl := Except.ok.inj hfound
      rw [listedNames_eq]
      refine fun s hs => .inl ?_
      split at hs
      · rcases List.mem_cons.mp hs with rfl | hs
        · exact inner_empty
        · exact inner_of_mem_listing hw (fun t ht => inner_of_mem_namesBelow ht) place s hs
      · exact inner_of_mem_listing hw (fun t ht => inner_of_mem_names ht) place s
          (List.mem_of_mem_filter hs)
    · simp at hfound
  · split at hfound
    · rename_i hempty
      obtain rfl := Except.ok.inj hfound
      intro s hs
      split at hs
      · exact .inr ((List.mem_singleton.mp hs).trans (beq_iff_eq.mp hempty).symm)
      · simp at hs
    · obtain rfl := Except.ok.inj hfound
      intro s hs
      split at hs
      · exact .inr (List.mem_singleton.mp hs)
      · simp at hs

/-- What a component finds in the places that the rest of a pattern finds. -/
theorem exists_of_mem_below {root component text : String} {dirsOnly : Bool}
    {places : Except FileFault (List String)} {found : List String}
    (h : (places >>= fun dirs => dirs.mapM (foundIn w root component dirsOnly) >>= fun results =>
      pure results.flatten) = .ok found) (htext : text ∈ found) :
    ∃ dirs, places = .ok dirs ∧ ∃ d ∈ dirs, ∃ s, (Inner s ∨ s = component) ∧
      joinText d s = text := by
  obtain ⟨dirs, hdirs, h⟩ := bind_eq_ok_iff.mp h
  obtain ⟨results, hresults, h⟩ := bind_eq_ok_iff.mp h
  obtain rfl := pure_eq_ok_iff.mp h
  obtain ⟨result, hresult, htext⟩ := List.mem_flatten.mp htext
  obtain ⟨d, hd, hbelow⟩ := exists_of_forall₂_of_mem (mapM_eq_ok_iff.mp hresults) hresult
  obtain ⟨names, hnames, rfl⟩ := map_eq_ok_iff.mp hbelow
  obtain ⟨s, hs, htext⟩ := List.mem_map.mp htext
  exact ⟨dirs, hdirs, d, hd, s, of_mem_matchingNames hw hnames s hs, htext⟩

/-- **What is found along a pattern**: what holds of a text as a pattern for itself, and is kept
when what a component finds is put after a text that the rest of a pattern finds, holds of all that
is found. -/
theorem of_mem_expandFrom {motive : String → String → Prop} (self : ∀ s, motive s s)
    (next : ∀ pattern found s, hasMagic pattern = true → motive (splitLast pattern).1 found →
      Inner s ∨ s = (splitLast pattern).2 → motive pattern (joinText found s))
    {root : String} {bound : Nat} {pattern : String} {dirsOnly : Bool} {found : List String}
    (h : expandFrom w root bound pattern dirsOnly = .ok found) :
    ∀ text ∈ found, motive pattern text := by
  induction bound generalizing pattern dirsOnly found with
  | zero =>
    obtain rfl := Except.ok.inj h
    nofun
  | succ bound ih =>
    have hself : ∀ check : Bool, ∀ text ∈ (if check then [pattern] else []),
        motive pattern text := by
      intro check text htext
      split at htext
      · rw [List.mem_singleton.mp htext]
        exact self pattern
      · simp at htext
    -- from here on it does not matter how the pattern was split
    have hnext := fun found s => next pattern found s
    have hfirst : motive (splitLast pattern).1 (splitLast pattern).1 := self _
    rw [expandFrom] at h
    generalize splitLast pattern = pieces at h hnext hfirst
    obtain ⟨dir, component⟩ := pieces
    dsimp only at h hnext hfirst
    split at h
    · split at h
      · obtain rfl := Except.ok.inj h
        exact hself _
      · obtain rfl := Except.ok.inj h
        exact hself _
    · rename_i hmagic
      replace hmagic : hasMagic pattern = true := by simpa using hmagic
      split at h
      · -- there is only the one component
        rename_i hdir
        intro text htext
        have hmotive := hnext dir text hmagic hfirst (of_mem_matchingNames hw h text htext)
        rwa [joinText, if_pos (by simp [hdir])] at hmotive
      · intro text htext
        split at h
        · obtain ⟨dirs, hdirs, d, hd, s, hs, rfl⟩ := exists_of_mem_below hw h htext
          exact hnext d s hmagic (ih hdirs d hd) hs
        · obtain ⟨dirs, hdirs, d, hd, s, hs, rfl⟩ := exists_of_mem_below hw h htext
          obtain rfl := Except.ok.inj hdirs
          obtain rfl := List.mem_singleton.mp hd
          exact hnext d s hmagic hfirst hs

/-- **What a pattern finds**, shown along the pattern. -/
theorem of_mem_expand {motive : String → String → Prop} (self : ∀ s, motive s s)
    (next : ∀ pattern found s, hasMagic pattern = true → motive (splitLast pattern).1 found →
      Inner s ∨ s = (splitLast pattern).2 → motive pattern (joinText found s))
    {root pattern : String} {found : List String} (h : expand w root pattern = .ok found) :
    ∀ text ∈ found, motive pattern text := by
  obtain ⟨all, hall, rfl⟩ := map_eq_ok_iff.mp h
  intro text htext
  refine of_mem_expandFrom hw self next hall text ?_
  split at htext
  · split at htext
    · exact List.mem_cons_of_mem _ htext
    · exact htext
  · exact htext

theorem writable_of_mem_expandFrom {root : String} {bound : Nat} {pattern : String}
    {dirsOnly : Bool} {found : List String} (hpattern : '\x00' ∉ pattern.toList)
    (h : expandFrom w root bound pattern dirsOnly = .ok found) :
    ∀ text ∈ found, '\x00' ∉ text.toList := by
  refine fun text htext => of_mem_expandFrom (motive := fun pattern text =>
    '\x00' ∉ pattern.toList → '\x00' ∉ text.toList) hw (fun s hs => hs) ?_ h text htext hpattern
  intro pattern found s _ ih hs hpattern hnul
  rcases mem_joinText hnul with hnul | hnul | hnul
  · exact ih (fun hdir => hpattern (mem_of_mem_splitLast (.inl hdir))) hnul
  · exact absurd hnul (by decide)
  · rcases hs with hs | rfl
    · exact hs.writable hnul
    · exact hpattern (mem_of_mem_splitLast (.inr hnul))

end Along

/-! ### Patterns without fault -/

section Faultless

variable {w : Workspace} (hw : w.root.Proper) {root : String} (hroot : '\x00' ∉ root.toList)

include hroot

omit hw in
theorem exists_matchingNames {found : String} (hfound : '\x00' ∉ found.toList)
    (component : String) (dirsOnly : Bool) :
    ∃ names, matchingNames w (joinPlace root found) component dirsOnly = .ok names := by
  have hlistable : isListable (joinPlace root found) = true := by
    rw [isListable, Bool.not_eq_true', List.contains_eq_mem, decide_eq_false_iff_not]
    intro hnul
    rcases mem_joinPlace hnul with hnul | hnul | hnul
    · exact hroot hnul
    · exact absurd hnul (by decide)
    · exact hfound hnul
  unfold matchingNames
  rw [if_pos hlistable]
  repeat' split
  all_goals exact ⟨_, rfl⟩

include hw

/-- **A pattern is faulty** only if it, or the root, has a character that no path has. -/
theorem exists_expandFrom {bound : Nat} {pattern : String} {dirsOnly : Bool}
    (hpattern : '\x00' ∉ pattern.toList) :
    ∃ found, expandFrom w root bound pattern dirsOnly = .ok found := by
  induction bound generalizing pattern dirsOnly with
  | zero => exact ⟨[], rfl⟩
  | succ bound ih =>
    have hdir : '\x00' ∉ (splitLast pattern).1.toList := fun h =>
      hpattern (mem_of_mem_splitLast (.inl h))
    rw [expandFrom]
    generalize splitLast pattern = pieces at hdir
    obtain ⟨dir, component⟩ := pieces
    dsimp only at hdir ⊢
    -- each place that is listed has only characters of the root and of what was found before
    have hbelow : ∀ dirs : List String, (∀ d ∈ dirs, '\x00' ∉ d.toList) →
        ∃ results, dirs.mapM (foundIn w root component dirsOnly) = .ok results := by
      refine fun dirs hdirs => exists_mapM_iff.mpr fun d hd => ?_
      obtain ⟨names, hnames⟩ := exists_matchingNames (w := w) hroot (hdirs d hd) component dirsOnly
      exact ⟨_, map_eq_ok_iff.mpr ⟨names, hnames, rfl⟩⟩
    split
    · split
      · exact ⟨_, rfl⟩
      · exact ⟨_, rfl⟩
    · split
      · have hnone : joinPlace root "" = root := by
          unfold joinPlace
          split
          · simp_all
          · rfl
        have hempty : '\x00' ∉ ("" : String).toList := by simp
        have hnames := exists_matchingNames (w := w) hroot hempty component dirsOnly
        rwa [hnone] at hnames
      · split
        · obtain ⟨dirs, hdirs⟩ : ∃ dirs, expandFrom w root bound dir true = .ok dirs := ih hdir
          obtain ⟨results, hresults⟩ := hbelow dirs (writable_of_mem_expandFrom hw hdir hdirs)
          exact ⟨_, bind_eq_ok_iff.mpr ⟨dirs, hdirs, bind_eq_ok_iff.mpr ⟨results, hresults, rfl⟩⟩⟩
        · obtain ⟨results, hresults⟩ := hbelow [dir] (List.forall_mem_singleton.mpr hdir)
          exact ⟨_, bind_eq_ok_iff.mpr ⟨[dir], rfl, bind_eq_ok_iff.mpr ⟨results, hresults, rfl⟩⟩⟩

theorem exists_expand {pattern : String} (hpattern : '\x00' ∉ pattern.toList) :
    ∃ found, expand w root pattern = .ok found := by
  obtain ⟨all, hall⟩ : ∃ all, expandFrom w root (pattern.length + 1) pattern false = .ok all :=
    exists_expandFrom hw hroot hpattern
  exact ⟨_, map_eq_ok_iff.mpr ⟨all, hall, rfl⟩⟩

end Faultless

end OperationCatalog.Glob
