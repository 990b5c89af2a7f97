import UaaAdmin.Proofs.PathWeights

/-!
# Addresses of requests by id

A request for one object has the id of the object in its path, as it is. On the way to the server
the path is relieved of double slashes, of what is blank at its end, of a query and a fragment, and
its segments are walked and decoded.

The payoff is `id_addresses`: the segments that the server reads are those of its own path, of the
collection, the id and the name of the part, exactly if the id is one that a path takes as it is
(`IsPathId`). An id with a slash or a dot segment leads elsewhere, which may be an object of another
collection.
-/

namespace UaaAdmin

open Url (IsServer IsPlace decoded)
open Text

/-! ## Targets -/

/-- What a request by id is for: an object of some kind and, if it is not for all of it, the name of
a part. -/
structure Target where
  kind : Kind
  id : String
  part : List String := []

namespace Target

/-- The names that lead to the target. -/
def names (o : Target) : List String := o.kind.places ++ o.id :: o.part

/-- The path that leads to the target, without the slash in front. -/
def bare (o : Target) : List Char := Url.dropSlash true (Url.pathText o.names)

end Target

/-- The target of a task that is known by an id. -/
def Task.target? : Task → Option Target
  | .get kind id | .replace kind id | .delete kind id => some ⟨kind, id, []⟩
  | .changeSecret id => some ⟨.client, id, ["secret"]⟩
  | .changePassword id => some ⟨.user, id, ["password"]⟩
  | _ => none

/-- The path of a task leads to its target. -/
theorem Task.toList_path {task : Task} {o : Target} (h : task.target? = some o) :
    task.path.toList = Url.pathText o.names := by
  have hcollection (kind : Kind) : kind.collection.toList = Url.pathText kind.places := by
    cases kind <;> decide +kernel
  have hnames (kind : Kind) (id : String) (part : List String) :
      Url.pathText (Target.names ⟨kind, id, part⟩)
        = (kind.collection ++ "/" ++ id).toList ++ Url.pathText part := by
    rw [String.toList_append, String.toList_append, hcollection, Target.names, Url.pathText,
      List.flatMap_append, List.append_assoc, List.append_assoc]
    rfl
  have hwhole (kind : Kind) (id : String) :
      (kind.collection ++ "/" ++ id).toList = Url.pathText (Target.names ⟨kind, id, []⟩) := by
    rw [hnames, Url.pathText, List.flatMap_nil, List.append_nil]
  have hpart (kind : Kind) {front suffix part : String} (id : String)
      (hfront : front = kind.collection ++ "/") (hsuffix : suffix = "/" ++ part) :
      (front ++ id ++ suffix).toList = Url.pathText (Target.names ⟨kind, id, [part]⟩) := by
    rw [hnames, hfront, String.toList_append, hsuffix, Url.pathText, List.flatMap_singleton,
      String.toList_append (s := "/")]
    rfl
  -- Five kinds of task have a target.
  cases task
  case get | replace | delete =>
    obtain rfl := Option.some.inj h
    exact hwhole _ _
  case changeSecret id =>
    obtain rfl := Option.some.inj h
    exact hpart .client id rfl rfl
  case changePassword id =>
    obtain rfl := Option.some.inj h
    exact hpart .user id rfl rfl
  all_goals cases h

/-- The name is one that a path has and keeps, and that is read as itself. -/
def IsFixedName (s : String) : Prop :=
  Url.IsSegment s ∧ s ≠ "" ∧ Percent.decode s.toList = Utf8.encode s

instance (s : String) : Decidable (IsFixedName s) :=
  inferInstanceAs (Decidable (Url.IsSegment s ∧ s ≠ "" ∧ Percent.decode s.toList = Utf8.encode s))

theorem Kind.isFixedName_places (kind : Kind) : ∀ s ∈ kind.places, IsFixedName s := by
  cases kind <;> decide +kernel

theorem Task.isFixedName_part {task : Task} {o : Target} (h : task.target? = some o) :
    ∀ s ∈ o.part, IsFixedName s := by
  have hsecret : IsFixedName "secret" := by decide +kernel
  have hpassword : IsFixedName "password" := by decide +kernel
  cases task
  case get | replace | delete =>
    obtain rfl := Option.some.inj h
    exact List.forall_mem_nil _
  case changeSecret =>
    obtain rfl := Option.some.inj h
    exact List.forall_mem_singleton.2 hsecret
  case changePassword =>
    obtain rfl := Option.some.inj h
    exact List.forall_mem_singleton.2 hpassword
  all_goals cases h

/-! ## What is sent of a path -/

/-- Halving slashes only leaves characters out. -/
theorem halveSlashes_sublist (cs : List Char) : (halveSlashes cs).Sublist cs := by
  fun_induction halveSlashes cs with
  | case1 cs ih => exact (ih.cons _).cons_cons _
  | case2 c cs _ ih => exact ih.cons_cons _
  | case3 => exact .slnil

theorem collapseSlashes_sublist (cs : List Char) : (collapseSlashes cs).Sublist cs := by
  fun_induction collapseSlashes cs with
  | case1 cs _ ih => exact ih.trans (halveSlashes_sublist cs)
  | case2 cs _ => exact List.Sublist.refl cs

namespace Url

theorem cutOff_fst (mark : Char) (cs : List Char) :
    mark ∉ (cutOff mark cs).1 ∧ (cutOff mark cs).1.Sublist cs := by
  by_cases hmark : mark ∈ cs
  · obtain ⟨before, behind, rfl, hbefore⟩ := List.eq_append_cons_of_mem hmark
    rw [cutOff_append hbefore]
    exact ⟨hbefore, List.sublist_append_left _ _⟩
  · rw [cutOff_eq_self hmark]
    exact ⟨hmark, List.Sublist.refl cs⟩

theorem pathPart_sublist (cs : List Char) : (pathPart cs).Sublist cs :=
  (cutOff_fst '?' _).2.trans (cutOff_fst '#' cs).2

/-- A text is a path exactly if nothing begins a query or a fragment in it. -/
theorem pathPart_eq_self_iff {cs : List Char} : pathPart cs = cs ↔ '#' ∉ cs ∧ '?' ∉ cs := by
  constructor
  · intro h
    have hquestion : '?' ∉ pathPart cs ∧ (pathPart cs).Sublist (cutOff '#' cs).1 :=
      cutOff_fst '?' (cutOff '#' cs).1
    rw [h] at hquestion
    have hmark := cutOff_fst '#' cs
    rw [hmark.2.antisymm hquestion.2] at hmark
    exact ⟨hmark.1, hquestion.1⟩
  · rintro ⟨hmark, hquestion⟩
    rw [pathPart, cutOff_eq_self hmark, cutOff_eq_self hquestion]

theorem queryPart_eq_none {cs : List Char} (hmark : '#' ∉ cs) (hquestion : '?' ∉ cs) :
    queryPart cs = none := by
  rw [queryPart, cutOff_eq_self hmark, cutOff_eq_self hquestion]

theorem cleanEnd_sublist (cs : List Char) : (cleanEnd cs).Sublist cs :=
  List.filter_sublist.trans (dropEndWhile_isPrefix _ cs).sublist

/-- Cleaning leaves a text as it is exactly if it ends visibly, and without tabs and line ends. -/
theorem cleanEnd_eq_self_iff {cs : List Char} :
    cleanEnd cs = cs ↔ EndsVisibly cs ∧ ∀ c ∈ cs, c ∉ ['\t', '\n', '\x0d'] := by
  have hfilter : cleanEnd cs = cs ↔
      dropEndWhile (fun c => decide (c.toNat ≤ 0x20)) cs = cs ∧
        ∀ c ∈ cs, (!(c == '\t' || c == '\n' || c == '\x0d')) = true := by
    constructor
    · intro h
      have hle : (cleanEnd cs).Sublist (dropEndWhile (fun c => decide (c.toNat ≤ 0x20)) cs) :=
        List.filter_sublist
      rw [h] at hle
      have hends := (dropEndWhile_isPrefix _ cs).sublist.antisymm hle
      rw [cleanEnd, hends] at h
      exact ⟨hends, List.filter_eq_self.1 h⟩
    · rintro ⟨hends, hall⟩
      rw [cleanEnd, hends]
      exact List.filter_eq_self.2 hall
  rw [hfilter, dropEndWhile_eq_self_iff]
  refine and_congr ?_ ?_
  · simp [EndsVisibly]
  · simp [and_assoc]

end Url

/-! ## Names that a path takes -/

/-- A path takes the name as it is: nothing in it ends a segment or the path or is dropped, and it
is neither encoded text nor a dot. -/
structure IsPathName (s : String) : Prop where
  plain : ∀ c ∈ s.toList, c ∉ ['/', '\\', '?', '#', '\t', '\n', '\x0d']
  literal : Percent.decode s.toList = Utf8.encode s
  notDot : s ≠ "." ∧ s ≠ ".."

theorem IsFixedName.isPathName {s : String} (h : IsFixedName s) : IsPathName s := by
  obtain ⟨hsegment, -, hliteral⟩ := h
  have hmarks : ∀ c ∈ ['/', '\\', '?', '#', '\t', '\n', '\x0d'],
      Url.isSlash true c = true ∨ Url.keptInPath c = false :=
    List.all_iff_forall_prop.1 (by decide +kernel)
  refine ⟨fun c hc hmark => ?_, hliteral, ?_, ?_⟩
  · rcases hmarks c hmark with hslash | hkept
    · exact absurd (hslash.symm.trans (hsegment.whole c hc)) (by simp)
    · exact absurd (hkept.symm.trans (hsegment.kept c hc)) (by simp)
  · rintro rfl
    exact absurd hsegment.notSingle (by decide)
  · rintro rfl
    exact absurd hsegment.notDouble (by decide)

theorem IsFixedName.endsVisibly {s : String} (h : IsFixedName s) : Url.EndsVisibly s.toList :=
  fun c hc => (Url.keptInPath_bounds (h.1.kept c (List.mem_of_getLast? hc))).1

/-- A path ends visibly if its last name does. -/
theorem Url.endsVisibly_pathText {names : List String}
    (h : ∀ s ∈ names.getLast?, EndsVisibly s.toList) : EndsVisibly (pathText names) := by
  intro c hc
  rcases List.eq_nil_or_concat' names with rfl | ⟨front, s, rfl⟩
  · cases hc
  · rw [pathText_concat, List.getLast?_append_of_ne_nil _ (List.cons_ne_nil _ _),
      List.getLast?_cons] at hc
    have hs := h s List.getLast?_concat
    rcases hlast : s.toList.getLast? with _ | d
    · rw [hlast] at hc
      rw [← Option.some.inj hc]
      decide
    · rw [hlast] at hc
      rw [← Option.some.inj hc]
      exact hs d hlast

/-- A path of names that it takes is sent as it is, and its names are read as they are, if only the
last of them may be empty and the path does not end in a blank. -/
theorem Url.reads_of_names {s : String} {names : List String} {cs : List Char} (hs : s ≠ "")
    (hnames : ∀ t ∈ s :: names, IsPathName t) (hfront : ∀ t ∈ (s :: names).dropLast, t ≠ "")
    (htext : pathText (s :: names) = '/' :: cs) (hends : EndsVisibly cs) :
    cleanEnd (sentPath (pathText (s :: names))) = cs ∧ ('#' ∉ cs ∧ '?' ∉ cs) ∧
      cs.splitOnP (isSlash true) = (s :: names).map String.toList ∧
      ∀ t ∈ s :: names, Percent.decode t.toList = Utf8.encode t ∧ ¬IsDot t.toList := by
  have hplain {t : String} (ht : t ∈ s :: names) {c : Char}
      (hc : c ∈ ['/', '\\', '?', '#', '\t', '\n', '\x0d']) : c ∉ t.toList :=
    fun hmem => (hnames t ht).plain c hmem hc
  have hmarks : ∀ c ∈ ['?', '#', '\t', '\n', '\x0d'], c ∉ cs := by
    intro c hc hmem
    have hmem' : c ∈ pathText (s :: names) := by
      rw [htext]
      exact List.mem_cons_of_mem _ hmem
    rcases mem_pathText hmem' with rfl | ⟨t, ht, hct⟩
    · exact absurd hc (by decide)
    · exact hplain ht (List.mem_cons_of_mem _ (List.mem_cons_of_mem _ hc)) hct
  -- No name in front is empty, so that there are no slashes to collapse.
  have hsingle : hasDoubleSlash ('/' :: cs) = false := by
    rw [← htext]
    exact hasDoubleSlash_pathText (fun t ht => hplain ht (by decide)) hfront
  have hcs : s.toList ++ pathText names = cs := (List.cons.inj htext).2
  have hsent : sentPath (pathText (s :: names)) = cs := by
    rw [htext]
    rcases htoList : s.toList with _ | ⟨c, tail⟩
    · exact absurd (String.toList_eq_nil_iff.1 htoList) hs
    · rw [← hcs, htoList, List.cons_append] at hsingle ⊢
      refine sentPath_of_single ?_ hsingle
      rintro rfl
      exact hplain List.mem_cons_self (by decide) (htoList ▸ List.mem_cons_self)
  refine ⟨?_, ⟨hmarks '#' (by decide), hmarks '?' (by decide)⟩, ?_, fun t ht => ?_⟩
  · rw [hsent]
    exact cleanEnd_eq_self_iff.2 ⟨hends, fun c hc hline =>
      hmarks c (List.mem_cons_of_mem _ (List.mem_cons_of_mem _ hline)) hc⟩
  · have hdrop : dropSlash true (pathText (s :: names)) = cs := by
      rw [htext]
      rfl
    rw [← hdrop]
    refine splitOnP_pathText (List.cons_ne_nil _ _) fun t ht c hc => ?_
    have hnot := (hnames t ht).plain c hc
    simp only [List.mem_cons, not_or] at hnot
    simp [isSlash, hnot.1, hnot.2.1]
  · obtain ⟨-, hliteral, hdot⟩ := hnames t ht
    exact ⟨hliteral, fun h => not_or.2 hdot ((isDot_iff hliteral).1 h)⟩

namespace Target

variable {o : Target}

theorem names_ne_nil (o : Target) : o.names ≠ [] :=
  List.append_ne_nil_of_right_ne_nil _ (List.cons_ne_nil _ _)

theorem pathText_names (o : Target) :
    Url.pathText o.names = '/' :: o.bare ∧
      o.bare = o.kind.bare ++ '/' :: (o.id.toList ++ Url.pathText o.part) := by
  obtain ⟨kind, id, part⟩ := o
  cases kind <;> exact ⟨rfl, rfl⟩

/-- What the path of the target is sent as, behind the slash. -/
def sent (o : Target) : List Char := sentPath (Url.pathText o.names)

/-- Nothing is put into the path when it is sent. -/
theorem sent_sublist (o : Target) : o.sent.Sublist o.bare := by
  obtain ⟨htext, hbare⟩ := o.pathText_names
  obtain ⟨c, cs, hkind, hc⟩ := o.kind.exists_bare
  rw [hkind, List.cons_append] at hbare
  have hsub := collapseSlashes_sublist (Url.pathText o.names)
  rw [sent, sentPath]
  rw [htext, hbare] at hsub ⊢
  obtain ⟨rest, hrest⟩ := collapseSlashes_cons_cons hc
    (cs ++ '/' :: (o.id.toList ++ Url.pathText o.part))
  rw [hrest] at hsub ⊢
  rw [dropWhile_slash hc]
  exact List.cons_sublist_cons.1 hsub

end Target

/-! ## Ids -/

/-- The path takes the id as it is, which does not end in a blank if the path ends with it. -/
structure IsPathId (id : String) (part : List String) : Prop extends IsPathName id where
  ends : part = [] → Url.EndsVisibly id.toList

namespace Target

variable {o : Target}

theorem mem_names {s : String} (h : s ∈ o.names) (hpart : ∀ s ∈ o.part, IsFixedName s) :
    s = o.id ∨ IsFixedName s := by
  rcases List.mem_append.1 h with h | h
  · exact .inr (o.kind.isFixedName_places s h)
  · exact (List.mem_cons.1 h).imp_right (hpart s)

theorem mem_bare_of_id {c : Char} (h : c ∈ o.id.toList) : c ∈ o.bare := by
  rw [o.pathText_names.2]
  exact List.mem_append_right _ (List.mem_cons_of_mem _ (List.mem_append_left _ h))

/-- The path ends visibly if the id does, or the name of the part stands behind it. -/
theorem endsVisibly_bare (hid : o.id ≠ "") (hpart : ∀ s ∈ o.part, IsFixedName s) :
    Url.EndsVisibly o.bare ↔ (o.part = [] → Url.EndsVisibly o.id.toList) := by
  have happend (cs : List Char) {ds : List Char} (h : ds ≠ []) :
      Url.EndsVisibly (cs ++ ds) ↔ Url.EndsVisibly ds := by
    rw [Url.EndsVisibly, List.getLast?_append_of_ne_nil cs h, Url.EndsVisibly]
  have hid' : o.id.toList ≠ [] := fun h => hid (String.toList_eq_nil_iff.1 h)
  rw [o.pathText_names.2, List.append_cons]
  by_cases hnone : o.part = []
  · rw [hnone, Url.pathText, List.flatMap_nil, List.append_nil, happend _ hid']
    exact ⟨fun h _ => h, fun h => h rfl⟩
  · have htext : Url.pathText o.part ≠ [] := by
      obtain ⟨s, part, hcons⟩ := List.exists_cons_of_ne_nil hnone
      rw [hcons]
      exact List.cons_ne_nil _ _
    rw [← List.append_assoc, happend _ htext]
    refine ⟨fun _ h => absurd h hnone, fun _ c hc => ?_⟩
    rcases Url.mem_pathText (List.mem_of_getLast? hc) with rfl | ⟨s, hs, hc⟩
    · decide
    · exact (Url.keptInPath_bounds ((hpart s hs).1.kept c hc)).1

/-- If the path is all that is left of what is sent, nothing but the path was sent. -/
theorem cleanEnd_sent (h : Url.pathPart (Url.cleanEnd o.sent) = o.bare) :
    Url.cleanEnd o.sent = o.bare :=
  ((Url.cleanEnd_sublist _).trans o.sent_sublist).antisymm (h ▸ Url.pathPart_sublist _)

/-- A path that takes the id is sent as it is, and its names are read as they are. -/
theorem reads_of_isPathId (hid : o.id ≠ "") (hpart : ∀ s ∈ o.part, IsFixedName s)
    (h : IsPathId o.id o.part) :
    Url.pathPart (Url.cleanEnd o.sent) = o.bare ∧
      o.bare.splitOnP (Url.isSlash true) = o.names.map String.toList ∧
      ∀ s ∈ o.names, Percent.decode s.toList = Utf8.encode s ∧ ¬Url.IsDot s.toList := by
  obtain ⟨s, names, hnames⟩ := List.exists_cons_of_ne_nil o.names_ne_nil
  have hmem {t : String} (ht : t ∈ o.names) : t ≠ "" ∧ IsPathName t := by
    rcases mem_names ht hpart with rfl | hfixed
    · exact ⟨hid, h.toIsPathName⟩
    · exact ⟨hfixed.2.1, hfixed.isPathName⟩
  have htext := o.pathText_names.1
  rw [sent]
  rw [hnames] at htext hmem ⊢
  obtain ⟨hclean, hmarks, hsplit, hread⟩ := Url.reads_of_names (hmem List.mem_cons_self).1
    (fun t ht => (hmem ht).2) (fun t ht => (hmem (List.dropLast_subset _ ht)).1) htext
    ((endsVisibly_bare hid hpart).2 h.ends)
  rw [hclean]
  exact ⟨Url.pathPart_eq_self_iff.2 hmarks, hsplit, hread⟩

/-- A path that is sent as it is and whose names are read as they are takes the id. -/
theorem isPathId_of_reads (hid : o.id ≠ "") (hpart : ∀ s ∈ o.part, IsFixedName s)
    (hsent : Url.pathPart (Url.cleanEnd o.sent) = o.bare)
    (hsplit : o.bare.splitOnP (Url.isSlash true) = o.names.map String.toList)
    (hread : ∀ s ∈ o.names, Percent.decode s.toList = Utf8.encode s ∧ ¬Url.IsDot s.toList) :
    IsPathId o.id o.part := by
  have hclean := cleanEnd_sent hsent
  have hsame : o.sent = o.bare := o.sent_sublist.antisymm (hclean ▸ Url.cleanEnd_sublist _)
  rw [hclean] at hsent
  rw [hsame] at hclean
  obtain ⟨hends, hlines⟩ := Url.cleanEnd_eq_self_iff.1 hclean
  obtain ⟨hmark, hquestion⟩ := Url.pathPart_eq_self_iff.1 hsent
  have hmem : o.id ∈ o.names := List.mem_append_right _ List.mem_cons_self
  obtain ⟨hliteral, hdot⟩ := hread o.id hmem
  have hwhole : ∀ c ∈ o.id.toList, Url.isSlash true c = false :=
    Url.not_mark_of_mem_splitOnP (hsplit ▸ List.mem_map_of_mem hmem)
  refine ⟨⟨fun c hc hmarks => ?_, hliteral,
    not_or.1 fun h => hdot ((Url.isDot_iff hliteral).2 h)⟩, (endsVisibly_bare hid hpart).1 hends⟩
  have hbare := mem_bare_of_id hc
  have hslash := hwhole c hc
  simp only [List.mem_cons, List.not_mem_nil, or_false] at hmarks hlines
  rcases hmarks with rfl | rfl | rfl | rfl | hline
  · exact absurd hslash (by decide)
  · exact absurd hslash (by decide)
  · exact hquestion hbare
  · exact hmark hbare
  · exact hlines c hbare hline

end Target

/-! ## Requests -/

/-- The exchange is that of a request for a target with an id. -/
def AsksFor (base : String) (o : Target) (x : Net.Exchange) : Prop :=
  o.id ≠ "" ∧ ∃ task, task.target? = some o ∧ AsksAt base task x

/-- The address leads to the target below the directories, with nothing else asked for. -/
def Url.LeadsTo (u : Url) (dirs : List String) (o : Target) : Prop :=
  u.query = none ∧ ∃ segments, u.path = .segments segments ∧
    decoded segments = decoded dirs ++ o.names.map Utf8.encode

/-- A request gets to its target exactly if the path takes the id. -/
theorem Target.leadsTo_iff {o : Target} (hid : o.id ≠ "") (hpart : ∀ s ∈ o.part, IsFixedName s)
    (u : Url) (dirs : List String) :
    (u.below dirs.reverse (Url.cleanEnd o.sent)).LeadsTo dirs o ↔ IsPathId o.id o.part := by
  have hsub : (Url.pathPart (Url.cleanEnd o.sent)).Sublist o.bare :=
    (Url.pathPart_sublist _).trans ((Url.cleanEnd_sublist _).trans o.sent_sublist)
  have hwalk := Url.decoded_walk_eq_iff dirs o.pathText_names.1 hsub
  constructor
  · rintro ⟨-, segments, hpath, hsegments⟩
    obtain rfl := Url.Path.segments.inj hpath
    obtain ⟨hsent, hsplit, hread⟩ := hwalk.1 hsegments
    exact Target.isPathId_of_reads hid hpart hsent hsplit hread
  · intro hpathId
    have hreads := Target.reads_of_isPathId hid hpart hpathId
    have hclean := Target.cleanEnd_sent hreads.1
    obtain ⟨hmark, hquestion⟩ := Url.pathPart_eq_self_iff.1 (hclean ▸ hreads.1)
    have hquery : Url.queryPart (Url.cleanEnd o.sent) = none := by
      rw [hclean]
      exact Url.queryPart_eq_none hmark hquestion
    exact ⟨congrArg (Option.map _) hquery, _, rfl, hwalk.2 hreads⟩

/-- The collections differ in their first names. -/
theorem Kind.eq_of_head?_places {kind kind' : Kind}
    (h : kind.places.head? = kind'.places.head?) : kind = kind' := by
  cases kind <;> cases kind' <;> first | rfl | exact absurd h (by decide)

theorem Target.names_injective : Function.Injective Target.names := by
  rintro ⟨kind, id, part⟩ ⟨kind', id', part'⟩ h
  have hhead (o : Target) : o.names.head? = o.kind.places.head? := by
    obtain ⟨kind, id, part⟩ := o
    cases kind <;> rfl
  have hkinds : kind.places.head? = kind'.places.head? :=
    (hhead _).symm.trans ((congrArg List.head? h).trans (hhead _))
  obtain rfl := Kind.eq_of_head?_places hkinds
  obtain ⟨rfl, rfl⟩ := List.cons.inj (List.append_cancel_left h)
  rfl

/-- A path leads to one target at most. -/
theorem Url.LeadsTo.unique {u u' : Url} {dirs : List String} {o o' : Target} (h : u.LeadsTo dirs o)
    (h' : u'.LeadsTo dirs o') (hpath : u.path = u'.path) : o = o' := by
  obtain ⟨-, segments, hu, hsegments⟩ := h
  obtain ⟨-, segments', hu', hsegments'⟩ := h'
  obtain rfl := Url.Path.segments.inj (hu.symm.trans (hpath.trans hu'))
  have hnames := List.append_cancel_left (hsegments.symm.trans hsegments')
  exact Target.names_injective (Utf8.encode_injective.list_map hnames)

/-- A request for one object goes to the server, and the segments of its path are read as those of
the server, of the collection, the id and the name of the part exactly if the id is one that a path
takes as it is. Requests with such ids go to the same path only if they have the same target. -/
theorem id_addresses {base : String} {u : Url} (h : IsServer base u) :
    ∃ dirs, IsPlace base u dirs ∧
      (∀ o x, AsksFor base o x →
        Net.Network.canReach x.request.url = true ∧
        ∃ v, Url.parse x.request.url = .ok v ∧
          v = { u with path := v.path, query := v.query, fragment := v.fragment } ∧
          (v.LeadsTo dirs o ↔ IsPathId o.id o.part)) ∧
      ∀ o o' x x', AsksFor base o x → AsksFor base o' x' → IsPathId o.id o.part →
        IsPathId o'.id o'.part →
        (Url.parse x.request.url).map Url.path = (Url.parse x'.request.url).map Url.path →
          o = o' := by
  obtain ⟨dirs, hplace, hasked⟩ := h.parse_asked
  have hread {o : Target} {x : Net.Exchange} (hx : AsksFor base o x) :
      Net.Network.canReach x.request.url = true ∧ ∃ v, Url.parse x.request.url = .ok v ∧
        v = { u with path := v.path, query := v.query, fragment := v.fragment } ∧
        (v.LeadsTo dirs o ↔ IsPathId o.id o.part) := by
    obtain ⟨hid, task, htarget, hx⟩ := hx
    obtain ⟨hreach, hparse⟩ := hasked hx
    rw [Task.toList_path htarget] at hparse
    exact ⟨hreach, _, hparse, rfl, Target.leadsTo_iff hid (Task.isFixedName_part htarget) u dirs⟩
  refine ⟨dirs, hplace, fun o x hx => hread hx, fun o o' x x' hx hx' hid hid' hpath => ?_⟩
  obtain ⟨-, v, hv, -, hleads⟩ := hread hx
  obtain ⟨-, v', hv', -, hleads'⟩ := hread hx'
  rw [hv, hv'] at hpath
  exact (hleads.2 hid).unique (hleads'.2 hid') (Except.ok.inj hpath)

theorem id_addresses_of_blanks :
    let base := "http://uaa.test:8080/uaa/"
    let o : Target := ⟨.user, "a b%zé ", ["password"]⟩
    IsServer base Url.atPort ∧ IsPathId o.id o.part ∧ ∃ x v, AsksFor base o x ∧
      Url.parse x.request.url = .ok v ∧ v.LeadsTo ["uaa"] o := by
  intro base o
  have hplain : ∀ c ∈ o.id.toList, c ∉ ['/', '\\', '?', '#', '\t', '\n', '\x0d'] :=
    List.all_iff_forall_prop.1 (by decide +kernel)
  have hid : IsPathId o.id o.part := ⟨⟨hplain, by decide +kernel, by decide⟩, by rintro ⟨⟩⟩
  let call : ManagerCall Unit := .changePassword "a b%zé " none "p" "z"
  have hone : ((call.op Session.atPort).runOn {}).2.network.log.length = 1 := by decide +kernel
  obtain ⟨x, hx⟩ := List.length_eq_one_iff.mp hone
  have hasks : AsksFor base o x :=
    ⟨by decide, call.task, rfl, .of_call baseUrl_atPort rfl hx⟩
  obtain ⟨dirs, hplace, hread, -⟩ := id_addresses isServer_atPort
  obtain ⟨-, v, hv, -, hleads⟩ := hread o x hasks
  obtain rfl := dirs_atPort hplace
  exact ⟨isServer_atPort, hid, x, v, hasks, hv, hleads.2 hid⟩

/-- The deletion of a user whose id has dots and slashes in it goes to a group. -/
theorem user_id_leads_to_group :
    ∃ x v, AsksFor "http://uaa.test:8080/uaa/" ⟨.user, "../Groups/g1", []⟩ x ∧
      x.request.method = .delete ∧ Url.parse x.request.url = .ok v ∧
      v.LeadsTo ["uaa"] ⟨.group, "g1", []⟩ ∧ ¬v.LeadsTo ["uaa"] ⟨.user, "../Groups/g1", []⟩ := by
  let call : ManagerCall Unit := .deleteUser "../Groups/g1" "z"
  let log := ((call.op Session.atPort).runOn {}).2.network.log
  have hone : log.length = 1 ∧ ∀ x ∈ log, x.request.method = .delete := by decide +kernel
  obtain ⟨x, hx⟩ := List.length_eq_one_iff.mp hone.1
  have hasked : AsksAt "http://uaa.test:8080/uaa/" call.task x := .of_call baseUrl_atPort rfl hx
  let v : Url := { Url.atPort with path := .segments ["uaa", "Groups", "g1"] }
  have hgroup : v.LeadsTo ["uaa"] ⟨.group, "g1", []⟩ := ⟨rfl, _, rfl, by decide +kernel⟩
  have hdelete : x.request.method = .delete := hone.2 x (hx ▸ List.mem_singleton_self x)
  refine ⟨x, v, ⟨by decide, _, rfl, hasked⟩, hdelete, ?_, hgroup, fun huser => ?_⟩
  · rw [hasked.url]
    exact Login.ok_of_toOption (by decide +kernel)
  · have hsame := hgroup.unique huser rfl
    cases congrArg Target.kind hsame

end UaaAdmin
