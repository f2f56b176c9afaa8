import Mathlib.Data.List.Perm.Lattice
import Mathlib.Data.List.Forall2
import VdeTmux.Foundation.Outline
import VdeTmux.Sidebar.RowIds

/-!
# What the rows show

A stretch of rows shows a list of panes under a list of container rows: each pane has one block, a
chat row with its detail rows, and each container row counts the chat rows under it.
-/

open Foundation Foundation.Outline VdeTmux.Pane VdeTmux.Category
namespace VdeTmux.Sidebar

def ShowsDetails (pane : AgentPane) (depth : ℕ) (details : List Detail)
    (rows : List SidebarRow) : Prop :=
  ∃ shown : List Detail, shown.Sublist details ∧ rows.map (·.id) = shown.map (detailRowId pane.paneInstance) ∧
    ∀ row ∈ rows, row.kind = .detail ∧ row.depth = depth

section Details
variable {pane : AgentPane} {depth : ℕ} {details details' : List Detail}
  {rows rows' : List SidebarRow}

theorem ShowsDetails.append (h : ShowsDetails pane depth details rows)
    (h' : ShowsDetails pane depth details' rows') :
    ShowsDetails pane depth (details ++ details') (rows ++ rows') := by
  obtain ⟨shown, hsub, hids, hrows⟩ := h
  obtain ⟨shown', hsub', hids', hrows'⟩ := h'
  refine ⟨shown ++ shown', hsub.append hsub', ?_, List.forall_mem_append.mpr ⟨hrows, hrows'⟩⟩
  rw [List.map_append, List.map_append, hids, hids']

theorem ShowsDetails.mono (h : ShowsDetails pane depth details rows)
    (hsub : details.Sublist details') : ShowsDetails pane depth details' rows := by
  obtain ⟨shown, hshown, hrest⟩ := h
  exact ⟨shown, hshown.trans hsub, hrest⟩

theorem ShowsDetails.nil : ShowsDetails pane depth details [] :=
  ⟨[], List.nil_sublist details, rfl, fun _ h => absurd h List.not_mem_nil⟩

theorem ShowsDetails.one {row : SidebarRow} {detail : Detail}
    (hid : row.id = detailRowId pane.paneInstance detail) (hkind : row.kind = .detail)
    (hdepth : row.depth = depth) : ShowsDetails pane depth [detail] [row] := by
  refine ⟨[detail], List.Sublist.refl _, by rw [List.map_singleton, hid]; rfl, ?_⟩
  intro r hr
  obtain rfl := List.mem_singleton.mp hr
  exact ⟨hkind, hdepth⟩

theorem detailRow_shows (detail : Detail) (label : String) :
    ShowsDetails pane depth [detail] [pane.detailRow depth detail label] :=
  ShowsDetails.one rfl rfl rfl

theorem ShowsDetails.option {α : Type} {o : Option α} {f : α → SidebarRow} {detail : Detail}
    (h : ∀ a, ShowsDetails pane depth [detail] [f a]) :
    ShowsDetails pane depth [detail] (o.toList.map f) := by
  cases o with
  | none => exact ShowsDetails.nil
  | some a => exact h a

theorem ShowsDetails.mapIdx {α : Type} {items : List α} {detail : ℕ → α → Detail}
    {label : ℕ → α → String} :
    ShowsDetails pane depth (items.mapIdx detail)
      (items.mapIdx fun index item => pane.detailRow depth (detail index item) (label index item)) := by
  refine ⟨items.mapIdx detail, List.Sublist.refl _, ?_, fun row hrow => ?_⟩
  · refine List.ext_getElem (by simp) fun index _ _ => ?_
    simp only [List.getElem_map, List.getElem_mapIdx]
    rfl
  · obtain ⟨index, -, rfl⟩ := List.mem_mapIdx.mp hrow
    exact ⟨rfl, rfl⟩

theorem nodup_mapIdx {α : Type} (items : List α) {detail : ℕ → α → Detail}
    (h : ∀ i a j b, detail i a = detail j b → i = j) : (items.mapIdx detail).Nodup := by
  refine List.pairwise_iff_getElem.mpr fun i j hi hj hij heq => ?_
  rw [List.getElem_mapIdx, List.getElem_mapIdx] at heq
  exact absurd (h _ _ _ _ heq) (Nat.ne_of_lt hij)

def allDetails (pane : AgentPane) : List Detail :=
  plainDetails ++ pane.taskItems.mapIdx (fun index item => .task index item.status) ++
    pane.subagents.mapIdx (fun index _ => .subagent index)

theorem allDetails_nodup (pane : AgentPane) : (allDetails pane).Nodup := by
  have htasks : (pane.taskItems.mapIdx fun index item => Detail.task index item.status).Nodup :=
    nodup_mapIdx _ fun i a j b h => (Detail.task.inj h).1
  have hsubagents : (pane.subagents.mapIdx fun index _ => Detail.subagent index).Nodup :=
    nodup_mapIdx _ fun i a j b h => Detail.subagent.inj h
  refine List.nodup_append.mpr ⟨List.nodup_append.mpr ⟨plainDetails_nodup, htasks, ?_⟩,
    hsubagents, ?_⟩
  · rintro a ha b hb rfl
    obtain ⟨index, hindex, rfl⟩ := List.mem_mapIdx.mp hb
    simp [plainDetails] at ha
  · rintro a ha b hb rfl
    obtain ⟨index, hindex, rfl⟩ := List.mem_mapIdx.mp hb
    rcases List.mem_append.mp ha with ha | ha
    · simp [plainDetails] at ha
    · obtain ⟨index', hindex', heq⟩ := List.mem_mapIdx.mp ha
      cases heq

theorem noticeRows_shows : ShowsDetails pane depth [.questionNotice, .questionHealth]
    (pane.noticeRows depth) := by
  unfold AgentPane.noticeRows
  cases pane.questionNotice with
  | none => exact ShowsDetails.nil
  | some notice =>
    have hreason : ShowsDetails pane depth [.questionHealth] (notice.reason.toList.map fun reason =>
        pane.detailRow depth .questionHealth
          s!"! question notice tracking: {debugNoticeReason reason}") :=
      ShowsDetails.option fun reason => detailRow_shows .questionHealth _
    simp only [Option.elim_some]
    split_ifs
    · exact (detailRow_shows .questionNotice _).append hreason
    · exact hreason.mono (by decide)

theorem summaryRows_shows : ShowsDetails pane depth [.summaryLoading, .summary]
    (pane.summaryRows depth) := by
  unfold AgentPane.summaryRows
  split_ifs
  · exact (detailRow_shows .summaryLoading "").mono (by decide)
  · have hsummary : ShowsDetails pane depth [.summary] ((nonEmpty pane.taskSummary).toList.map
        fun summary => pane.detailRow depth .summary summary) :=
      ShowsDetails.option fun summary => detailRow_shows .summary summary
    exact hsummary.mono (by decide)

theorem awaitingRows_shows : ShowsDetails pane depth [.awaitingResult, .awaitingRegistry]
    (pane.awaitingRows depth) := by
  unfold AgentPane.awaitingRows
  split_ifs
  · exact (detailRow_shows .awaitingResult _).append (ShowsDetails.one rfl rfl rfl)
  · exact ShowsDetails.nil

theorem cronRows_shows : ShowsDetails pane depth [.cron] (pane.cronRows depth) := by
  unfold AgentPane.cronRows
  split_ifs
  · exact ShowsDetails.one rfl rfl rfl
  · exact ShowsDetails.nil

theorem chatDetailRows_shows {includeRepoGit : Bool} : ShowsDetails pane depth
    ((allDetails pane).drop 1) (pane.chatDetailRows depth includeRepoGit) := by
  have hdetails : (allDetails pane).drop 1 =
      [.questionNotice, .questionHealth] ++ [.summaryLoading, .summary] ++ [.signal] ++
        [.awaitingResult, .awaitingRegistry] ++ [.cron] ++ [.background] ++ [.response] ++
        [.worktreeActivity] ++ pane.taskItems.mapIdx (fun index item => .task index item.status) ++
        pane.subagents.mapIdx (fun index _ => .subagent index) := rfl
  rw [hdetails]
  have hsignal : ShowsDetails pane depth [.signal] (pane.signalRows depth includeRepoGit) :=
    ShowsDetails.option fun signal => ShowsDetails.one rfl rfl rfl
  exact ((((((((noticeRows_shows.append summaryRows_shows).append hsignal).append
    awaitingRows_shows).append cronRows_shows).append
    (ShowsDetails.option fun process => detailRow_shows .background _)).append
    (ShowsDetails.option fun response => detailRow_shows .response _)).append
    (ShowsDetails.option fun activity => detailRow_shows .worktreeActivity _)).append
    ShowsDetails.mapIdx).append ShowsDetails.mapIdx

end Details

def isChat (row : SidebarRow) : Bool := row.kind = .chat

def IsBlock (pane : AgentPane) (depth : ℕ) (rows : List SidebarRow) : Prop :=
  ∃ (row : SidebarRow) (rest : List SidebarRow), rows = row :: rest ∧ row.id = chatRowId pane.paneInstance ∧ row.kind = .chat ∧
    row.depth = depth ∧ ShowsDetails pane (depth + 1) (allDetails pane) rest

section Blocks
variable {pane : AgentPane} {depth : ℕ} {rows : List SidebarRow}

theorem ShowsDetails.all (h : ShowsDetails pane depth ((allDetails pane).drop 1) rows) :
    ShowsDetails pane depth (allDetails pane) rows :=
  h.mono (List.drop_sublist 1 _)

theorem chatRows_isBlock (state : SidebarState) (now : ℤ) (showOrigin includeRepoGit : Bool) :
    IsBlock pane depth (pane.chatRows state depth now showOrigin includeRepoGit) := by
  refine ⟨_, _, rfl, rfl, rfl, rfl, ?_⟩
  split_ifs
  · exact chatDetailRows_shows.all
  · exact ShowsDetails.nil

theorem triageChatRows_isBlock (state : SidebarState) (now : ℤ) :
    IsBlock pane 1 (pane.triageChatRows state now) := by
  refine ⟨_, _, rfl, rfl, rfl, rfl, ?_⟩
  split_ifs
  · have horigin := @detailRow_shows pane 2 .origin s!"origin: {pane.origin}"
    exact horigin.append chatDetailRows_shows
  · exact ShowsDetails.nil

theorem priorityChatRows_isBlock (state : SidebarState) (now : ℤ) :
    IsBlock pane 1 (pane.priorityChatRows state now) := by
  refine ⟨_, _, rfl, rfl, rfl, rfl, ?_⟩
  split_ifs
  · exact chatDetailRows_shows.all
  · exact ShowsDetails.nil

theorem IsBlock.ids_nodup (h : IsBlock pane depth rows) : (rows.map (·.id)).Nodup := by
  obtain ⟨row, rest, rfl, hid, -, -, shown, hsub, hids, -⟩ := h
  rw [List.map_cons, hids, hid, List.nodup_cons]
  refine ⟨fun hmem => ?_, ?_⟩
  · obtain ⟨detail, -, heq⟩ := List.mem_map.mp hmem
    have hmark := congrArg idMark heq
    rw [idMark_chat, idMark_detail] at hmark
    exact absurd hmark (by decide)
  · exact ((allDetails_nodup pane).sublist hsub).map fun a b hab => (detailRowId_inj hab).2

theorem IsBlock.mem_ids (h : IsBlock pane depth rows) {id : String} (hid : id ∈ rows.map (·.id)) :
    id = chatRowId pane.paneInstance ∨ ∃ detail, id = detailRowId pane.paneInstance detail := by
  obtain ⟨row, rest, rfl, hrow, -, -, shown, -, hids, -⟩ := h
  rw [List.map_cons, hids, hrow] at hid
  rcases List.mem_cons.mp hid with rfl | hid
  · exact Or.inl rfl
  · obtain ⟨detail, -, rfl⟩ := List.mem_map.mp hid
    exact Or.inr ⟨detail, rfl⟩

theorem IsBlock.kind (h : IsBlock pane depth rows) {row : SidebarRow} (hrow : row ∈ rows) :
    row.kind = .chat ∨ row.kind = .detail := by
  obtain ⟨first, rest, rfl, -, hkind, -, shown, -, -, hdetails⟩ := h
  rcases List.mem_cons.mp hrow with rfl | hrow
  · exact Or.inl hkind
  · exact Or.inr (hdetails row hrow).1

theorem IsBlock.chats (h : IsBlock pane depth rows) :
    (rows.filter isChat).map (·.id) = [chatRowId pane.paneInstance] := by
  obtain ⟨row, rest, rfl, hid, hkind, -, shown, -, -, hdetails⟩ := h
  have hrest : rest.filter isChat = [] := by
    refine List.filter_eq_nil_iff.mpr fun r hr => ?_
    simp [isChat, (hdetails r hr).1]
  rw [List.filter_cons_of_pos (by simp [isChat, hkind]), hrest, List.map_singleton, hid]

theorem IsBlock.from (h : IsBlock pane depth rows) : From SidebarRow.depth depth rows := by
  obtain ⟨row, rest, rfl, -, -, hdepth, shown, -, -, hdetails⟩ := h
  exact From.cons hdepth fun r hr => by
    rw [(hdetails r hr).2]
    exact Nat.le_succ depth

theorem IsBlock.ids_disjoint {pane' : AgentPane} {depth' : ℕ} {rows' : List SidebarRow}
    (h : IsBlock pane depth rows) (h' : IsBlock pane' depth' rows')
    (hne : pane.paneInstance ≠ pane'.paneInstance) :
    List.Disjoint (rows.map (·.id)) (rows'.map (·.id)) := by
  intro id hid hid'
  rcases h.mem_ids hid with rfl | ⟨detail, rfl⟩ <;> rcases h'.mem_ids hid' with heq | ⟨detail', heq⟩
  · exact hne (chatRowId_injective heq)
  · have hmark := congrArg idMark heq
    rw [idMark_chat, idMark_detail] at hmark
    exact absurd hmark (by decide)
  · have hmark := congrArg idMark heq
    rw [idMark_chat, idMark_detail] at hmark
    exact absurd hmark (by decide)
  · exact hne (detailRowId_inj heq).1

end Blocks

/-- A container row is neither a chat row nor a detail row, and its id shows it. -/
structure IsHead (row : SidebarRow) : Prop where
  kind : row.kind ≠ .chat ∧ row.kind ≠ .detail
  mark : idMark row.id ≠ ['c', 'h'] ∧ idMark row.id ≠ ['d', 'e']

def Counted (row : SidebarRow) (under : List SidebarRow) : Prop :=
  match row.kind with
  | .zone | .repo => row.chatCount = under.countP isChat
  | .category => row.chatCount = ((under.filter (·.kind = .repo)).map (·.chatCount)).sum
  | .chat | .detail => True

def EachCounted (rows : List SidebarRow) : Prop :=
  Each (fun row rest => Counted row (below SidebarRow.depth row rest)) rows

/-- The rows from a depth on show these panes, each one in its block, under these heads. -/
structure Outlined (depth : ℕ) (heads : List SidebarRow) (panes : List AgentPane)
    (rows : List SidebarRow) : Prop where
  isHead : ∀ head ∈ heads, IsHead head
  blocks : ∃ blocks : List (AgentPane × List SidebarRow), (blocks.map Prod.fst).Perm panes ∧
    (∀ block ∈ blocks, ∃ depth, IsBlock block.1 depth block.2) ∧
    rows.Perm (heads ++ blocks.flatMap Prod.snd)
  start : From SidebarRow.depth depth rows
  counted : EachCounted rows

namespace Outlined
variable {depth : ℕ} {heads heads' : List SidebarRow} {panes panes' : List AgentPane}
  {rows rows' : List SidebarRow}

theorem perm (h : Outlined depth heads panes rows) (hheads : heads.Perm heads')
    (hpanes : panes.Perm panes') : Outlined depth heads' panes' rows where
  isHead head hmem := h.isHead head (hheads.mem_iff.mpr hmem)
  blocks := by
    obtain ⟨blocks, hfst, hblocks, hrows⟩ := h.blocks
    exact ⟨blocks, hfst.trans hpanes, hblocks, hrows.trans (hheads.append_right _)⟩
  start := h.start
  counted := h.counted

theorem nil : Outlined depth [] [] [] :=
  ⟨fun _ h => absurd h List.not_mem_nil, ⟨[], List.Perm.refl _, fun _ h => absurd h List.not_mem_nil,
    List.Perm.refl _⟩, From.nil, trivial⟩

theorem append (h : Outlined depth heads panes rows) (h' : Outlined depth heads' panes' rows') :
    Outlined depth (heads ++ heads') (panes ++ panes') (rows ++ rows') where
  isHead := List.forall_mem_append.mpr ⟨h.isHead, h'.isHead⟩
  blocks := by
    obtain ⟨blocks, hfst, hblocks, hrows⟩ := h.blocks
    obtain ⟨blocks', hfst', hblocks', hrows'⟩ := h'.blocks
    refine ⟨blocks ++ blocks', ?_, List.forall_mem_append.mpr ⟨hblocks, hblocks'⟩, ?_⟩
    · rw [List.map_append]
      exact hfst.append hfst'
    · rw [List.flatMap_append]
      refine (hrows.append hrows').trans ?_
      rw [List.append_assoc, List.append_assoc]
      refine List.Perm.append_left heads ?_
      rw [← List.append_assoc, ← List.append_assoc]
      exact List.perm_append_comm.append_right _
  start := h.start.append h'.start
  counted := h.counted.append_from h.start h'.start h'.counted

theorem forall₂ {α : Type} {l : List α} {w : List (List AgentPane)} {f g : α → List SidebarRow}
    (h : List.Forall₂ (fun x panes => Outlined depth (f x) panes (g x)) l w) :
    Outlined depth (l.flatMap f) w.flatten (l.flatMap g) := by
  induction h with
  | nil => exact nil
  | cons hx _ ih => exact hx.append ih

theorem flatMap {α : Type} {l : List α} {p : α → List AgentPane} {f g : α → List SidebarRow}
    (h : ∀ x ∈ l, Outlined depth (f x) (p x) (g x)) :
    Outlined depth (l.flatMap f) (l.flatMap p) (l.flatMap g) := by
  induction l with
  | nil => exact nil
  | cons x l ih =>
    obtain ⟨hx, hl⟩ := List.forall_mem_cons.mp h
    exact hx.append (ih hl)

theorem block {pane : AgentPane} (h : IsBlock pane depth rows) : Outlined depth [] [pane] rows where
  isHead _ hmem := absurd hmem List.not_mem_nil
  blocks := ⟨[(pane, rows)], List.Perm.refl _, by simpa using ⟨depth, h⟩, by simp⟩
  start := h.from
  counted := by
    refine each_of_forall fun row hrow rest => ?_
    rcases h.kind hrow with hkind | hkind
    · simp [Counted, hkind]
    · simp [Counted, hkind]

theorem ofBlocks {f : AgentPane → List SidebarRow} (h : ∀ pane ∈ panes, IsBlock pane depth (f pane)) :
    Outlined depth [] panes (panes.flatMap f) := by
  have hflat : Outlined depth (panes.flatMap fun _ => []) (panes.flatMap fun pane => [pane])
      (panes.flatMap f) := flatMap fun pane hpane => block (h pane hpane)
  have hnone : (panes.flatMap fun _ => ([] : List SidebarRow)) = [] :=
    List.flatMap_eq_nil_iff.mpr fun _ _ => rfl
  simpa [hnone] using hflat

theorem under {head : SidebarRow} {deeper : ℕ} (h : Outlined deeper heads panes rows)
    (hdepth : head.depth = depth) (hlt : depth < deeper) (hhead : IsHead head)
    (hcounted : Counted head rows) : Outlined depth (head :: heads) panes (head :: rows) where
  isHead := List.forall_mem_cons.mpr ⟨hhead, h.isHead⟩
  blocks := by
    obtain ⟨blocks, hfst, hblocks, hrows⟩ := h.blocks
    exact ⟨blocks, hfst, hblocks, hrows.cons head⟩
  start := From.cons hdepth fun r hr => hlt.le.trans (h.start.deep r hr)
  counted := by
    have hbelow : below SidebarRow.depth head rows = rows :=
      below_eq_self fun r hr => hdepth.symm ▸ lt_of_lt_of_le hlt (h.start.deep r hr)
    refine ⟨?_, h.counted⟩
    show Counted head (below SidebarRow.depth head rows)
    rwa [hbelow]

theorem chats_of_blocks {blocks : List (AgentPane × List SidebarRow)}
    (h : ∀ block ∈ blocks, ∃ depth, IsBlock block.1 depth block.2) :
    ((blocks.flatMap Prod.snd).filter isChat).map (·.id) =
      blocks.map fun block => chatRowId block.1.paneInstance := by
  induction blocks with
  | nil => rfl
  | cons b blocks ih =>
    obtain ⟨⟨d, hb⟩, hblocks⟩ := List.forall_mem_cons.mp h
    rw [List.flatMap_cons, List.filter_append, List.map_append, hb.chats, ih hblocks,
      List.map_cons, List.singleton_append]

theorem chats (h : Outlined depth heads panes rows) :
    ((rows.filter isChat).map (·.id)).Perm (panes.map fun pane => chatRowId pane.paneInstance) := by
  obtain ⟨blocks, hfst, hblocks, hrows⟩ := h.blocks
  have hheads : heads.filter isChat = [] := by
    refine List.filter_eq_nil_iff.mpr fun head hhead => ?_
    simpa [isChat] using (h.isHead head hhead).kind.1
  have hperm := (hrows.filter isChat).map (·.id)
  rw [List.filter_append, hheads, List.nil_append, chats_of_blocks hblocks] at hperm
  have hpanes := hfst.map fun pane => chatRowId pane.paneInstance
  rw [List.map_map] at hpanes
  exact hperm.trans hpanes

theorem countP_chats (h : Outlined depth heads panes rows) :
    rows.countP isChat = panes.length := by
  have hlength := h.chats.length_eq
  rwa [List.length_map, List.length_map, ← List.countP_eq_length_filter] at hlength

theorem repos_perm (h : Outlined depth heads panes rows) :
    (rows.filter (·.kind = .repo)).Perm (heads.filter (·.kind = .repo)) := by
  obtain ⟨blocks, -, hblocks, hrows⟩ := h.blocks
  refine (hrows.filter _).trans (List.Perm.of_eq ?_)
  have hnone : (blocks.flatMap Prod.snd).filter (·.kind = .repo) = [] := by
    refine List.filter_eq_nil_iff.mpr fun row hrow => ?_
    obtain ⟨b, hb, hrow⟩ := List.mem_flatMap.mp hrow
    obtain ⟨d, hblock⟩ := hblocks b hb
    rcases hblock.kind hrow with hkind | hkind
    · simp [hkind]
    · simp [hkind]
  rw [List.filter_append, hnone, List.append_nil]

/-- With distinct panes, the ids are distinct when those of the heads are. -/
theorem ids_nodup (h : Outlined depth heads panes rows)
    (hpanes : (panes.map (·.paneInstance)).Nodup) :
    (rows.map (·.id)).Nodup ↔ (heads.map (·.id)).Nodup := by
  obtain ⟨blocks, hfst, hblocks, hrows⟩ := h.blocks
  rw [(hrows.map _).nodup_iff, List.map_append, List.nodup_append, List.map_flatMap]
  refine ⟨fun hnodup => hnodup.1, fun hnodup => ⟨hnodup, ?_, ?_⟩⟩
  · have hinstances : (blocks.map fun b => b.1.paneInstance).Nodup := by
      have hperm := (hfst.map (·.paneInstance)).nodup_iff.mpr hpanes
      rwa [List.map_map] at hperm
    refine List.nodup_flatMap.mpr ⟨fun b hb => ?_, ?_⟩
    · obtain ⟨d, hblock⟩ := hblocks b hb
      exact hblock.ids_nodup
    · refine (List.pairwise_map.mp hinstances).imp_of_mem fun {b b'} hb hb' hne => ?_
      obtain ⟨d, hblock⟩ := hblocks b hb
      obtain ⟨d', hblock'⟩ := hblocks b' hb'
      exact hblock.ids_disjoint hblock' hne
  · rintro id hid id' hid' rfl
    obtain ⟨head, hhead, rfl⟩ := List.mem_map.mp hid
    obtain ⟨b, hb, hmem⟩ := List.mem_flatMap.mp hid'
    obtain ⟨d, hblock⟩ := hblocks b hb
    have hmark := (h.isHead head hhead).mark
    rcases hblock.mem_ids hmem with heq | ⟨detail, heq⟩
    · exact hmark.1 (heq ▸ idMark_chat _)
    · exact hmark.2 (heq ▸ idMark_detail _ _)

end Outlined

end VdeTmux.Sidebar
