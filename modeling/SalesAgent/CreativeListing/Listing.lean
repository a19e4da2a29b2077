import SalesAgent.DateTime
import SalesAgent.Lib.IndexedTable
import SalesAgent.Lib.Paging
import SalesAgent.MediaBuy.Creatives

/-!
# Listing the creative library

A buyer lists its creatives by filters, in an order, page by page: each answer carries a
cursor, and the cursor is the offset at which the next page begins.  The query joins the
assignments when the buyer names media buys, and it orders the rows by one column.

**Results.**  `walk_eq`: a walk along the cursors shows the windows of the arrangements the
queries find.  `listing_laws`: it shows every creative that satisfies the filters once, and
counts them, whatever order the database gives to rows that tie, exactly where the join keeps
one row a creative and no group of ties stands across a page boundary.
-/

namespace SalesAgent
namespace CreativeListing

open MediaBuys (CreativeAssignment)
open Paging (Arranges Straddled TotalPreorder pagesFrom)

section Rows

/-- What the query reads of the column `data`. -/
structure CreativeData where
  hasAssets : Bool := true
  conceptId : Option String := none
  /-- the elements of the array under `tags`, and the keys of an object there -/
  tags : List String := []
  /-- the length of the array under `variables` -/
  variableCount : Option Nat := none
  deriving DecidableEq, Repr

/-- A row of `creatives`, with the columns the query reads. -/
structure Creative where
  creativeId : String
  tenantId : String
  principalId : String
  name : String
  agentUrl : String
  format : String
  status : String
  data : CreativeData := {}
  createdAt : Option DateTime := none
  updatedAt : Option DateTime := none
  deriving DecidableEq, Repr

/-- The primary key of `creatives`. -/
def primaryKey
    (creative : Creative) : Option (String × String × String) :=
  some (creative.creativeId, creative.tenantId, creative.principalId)

/-- The unique constraint of `creative_assignments`. -/
def uqCreativeAssignment
    (assignment : CreativeAssignment) : Option (String × String × String × String) :=
  some (assignment.tenantId, assignment.creativeId, assignment.mediaBuyId, assignment.packageId)

/-- The assignment is of this creative: the composite foreign key. -/
def AssignmentOf
    (creative : Creative)
    (assignment : CreativeAssignment) : Prop :=
  assignment.creativeId = creative.creativeId ∧ assignment.tenantId = creative.tenantId
    ∧ assignment.principalId = creative.principalId

instance
    (creative : Creative)
    (assignment : CreativeAssignment) :
    Decidable (AssignmentOf creative assignment) :=
  inferInstanceAs (Decidable (_ ∧ _ ∧ _))

/-- The two tables of a library. -/
structure Library where
  creatives : IndexedTable Creative (String × String × String) primaryKey
  assignments :
    IndexedTable CreativeAssignment (String × String × String × String) uqCreativeAssignment
  references : ∀ assignment ∈ assignments.rows,
    ∃ creative ∈ creatives.rows, AssignmentOf creative assignment

end Rows

section Query

/-- `CreativeSortField` -/
inductive SortField
  | createdDate
  | updatedDate
  | name
  | status
  | assignmentCount
  deriving DecidableEq, Repr

/-- `SortDirection` -/
inductive SortDirection
  | asc
  | desc
  deriving DecidableEq, Repr

/-- The filters of the query; an empty list filters nothing. -/
structure QueryFilters where
  statuses : List String := []
  format : Option String := none
  tags : List String := []
  tagsAny : List String := []
  hasVariables : Option Bool := none
  creativeIds : List String := []
  formatIds : List (String × String) := []
  createdAfter : Option DateTime := none
  createdBefore : Option DateTime := none
  search : Option String := none
  mediaBuyIds : List String := []
  conceptIds : List String := []
  deriving DecidableEq, Repr

/-- `ILIKE`, of a pattern and a text. -/
def ilike : List Char → List Char → Bool
  | [], text => text.isEmpty
  | '%' :: pattern, text => text.tails.any fun rest => ilike pattern rest
  | '_' :: pattern, text =>
      match text with
      | [] => false
      | _ :: rest => ilike pattern rest
  | '\\' :: c :: pattern, text =>
      match text with
      | [] => false
      | d :: rest => c.toLower = d.toLower && ilike pattern rest
  | c :: pattern, text =>
      match text with
      | [] => false
      | d :: rest => c.toLower = d.toLower && ilike pattern rest

/-- `agent_url.rstrip("/")` -/
def withoutSlashes
    (url : String) : String :=
  String.ofList (url.toList.reverse.dropWhile (· = '/')).reverse

/-- A condition that an absent argument leaves out. -/
def given
    {α : Type}
    (argument : Option α)
    (condition : α → Bool) : Bool :=
  argument.all condition

/-- The `WHERE` clauses of `get_by_principal`, but for the media buys. -/
def whereClauses
    (filters : QueryFilters)
    (row : Creative) : Bool :=
  row.data.hasAssets
    && (if filters.statuses = [] then row.status ≠ "archived" else row.status ∈ filters.statuses)
    && given filters.format (fun format => row.format = format)
    && (filters.creativeIds = [] || row.creativeId ∈ filters.creativeIds)
    && (filters.formatIds = [] || filters.formatIds.any fun formatId =>
          (row.agentUrl = formatId.1 || row.agentUrl = withoutSlashes formatId.1)
            && row.format = formatId.2)
    && (filters.conceptIds = [] || row.data.conceptId.any (· ∈ filters.conceptIds))
    && filters.tags.all (· ∈ row.data.tags)
    && (filters.tagsAny = [] || filters.tagsAny.any (· ∈ row.data.tags))
    && given filters.hasVariables (fun wanted =>
          if wanted then 0 < row.data.variableCount.getD 0 else row.data.variableCount.getD 0 = 0)
    && given filters.createdAfter (fun after => row.createdAt.any (after ≤ ·))
    && given filters.createdBefore (fun before => row.createdAt.any (· ≤ before))
    && given filters.search (fun search =>
          search = "" || ilike ('%' :: (search.toList ++ ['%'])) row.name.toList)

variable (library : Library)

/-- The assignments a row is joined with. -/
def joinedAssignments
    (filters : QueryFilters)
    (row : Creative) : List CreativeAssignment :=
  library.assignments.rows.filter fun assignment =>
    assignment.creativeId = row.creativeId && assignment.mediaBuyId ∈ filters.mediaBuyIds

/-- How often the query holds a row: once, or once for each joined assignment. -/
def rowsOf
    (filters : QueryFilters)
    (row : Creative) : Nat :=
  if filters.mediaBuyIds = [] then 1 else (joinedAssignments library filters row).length

/-- The caller's rows under the `WHERE` clauses, before the join. -/
def candidates
    (tenantId principalId : String)
    (filters : QueryFilters) : List Creative :=
  library.creatives.rows.filter fun row =>
    row.tenantId = tenantId && row.principalId = principalId && whereClauses filters row

/-- The rows of the statement. -/
def matching
    (tenantId principalId : String)
    (filters : QueryFilters) : List Creative :=
  (candidates library tenantId principalId filters).flatMap fun row =>
    List.replicate (rowsOf library filters row) row

/-- `_assignment_count_of` -/
def assignmentCountOf
    (row : Creative) : Nat :=
  library.assignments.rows.countP fun assignment =>
    assignment.tenantId = row.tenantId && assignment.creativeId = row.creativeId

/-- Instants in order; a null stands behind all of them. -/
def nullsLast : Option DateTime → Option DateTime → Bool
  | _, none => true
  | none, some _ => false
  | some a, some b => a ≤ b

/-- The comparison of the sort column. -/
def ascending
    (sortBy : SortField)
    (a b : Creative) : Bool :=
  match sortBy with
  | .name => a.name ≤ b.name
  | .status => a.status ≤ b.status
  | .updatedDate => nullsLast a.updatedAt b.updatedAt
  | .assignmentCount => assignmentCountOf library a ≤ assignmentCountOf library b
  | .createdDate => nullsLast a.createdAt b.createdAt

/-- The comparison of the `ORDER BY` clause. -/
def orderBy
    (sortBy : SortField)
    (sortOrder : SortDirection)
    (a b : Creative) : Bool :=
  match sortOrder with
  | .asc => ascending library sortBy a b
  | .desc => ascending library sortBy b a

/-- `CreativeListResult` -/
structure CreativeListResult where
  creatives : List Creative
  totalCount : Nat
  deriving DecidableEq, Repr

/-- The order in which the database returns the rows of a statement, by its offset and its
limit. -/
abbrev Plan :=
  Nat → Nat → List Creative → List Creative

/-- `get_by_principal`; the plan stands for the `ORDER BY` clause. -/
def getByPrincipal
    (plan : Plan)
    (tenantId principalId : String)
    (filters : QueryFilters)
    (offset limit : Nat) : CreativeListResult :=
  let rows := matching library tenantId principalId filters
  { creatives := ((plan offset limit rows).drop offset).take limit
    totalCount := rows.length }

end Query

section Listing

/-- `max_results`, within the bounds of its schema. -/
abbrev MaxResults :=
  { n : Nat // 1 ≤ n ∧ n ≤ 100 }

/-- `PaginationRequest` -/
structure PaginationRequest where
  maxResults : Option MaxResults := none
  cursor : Option String := none
  deriving DecidableEq

/-- `CreativeFilters` -/
structure CreativeFilters where
  statuses : List String := []
  tags : List String := []
  tagsAny : List String := []
  hasVariables : Option Bool := none
  hasServed : Option Bool := none
  creativeIds : List String := []
  formatIds : List (String × String) := []
  createdAfter : Option DateTime := none
  createdBefore : Option DateTime := none
  nameContains : Option String := none
  mediaBuyIds : List String := []
  conceptIds : List String := []
  deriving DecidableEq, Repr

/-- `ListCreativesRequest`, as far as it decides which creatives are listed. -/
structure ListCreativesRequest where
  filters : CreativeFilters := {}
  sortField : Option SortField := none
  sortDirection : Option SortDirection := none
  pagination : PaginationRequest := {}
  deriving DecidableEq

/-- A refusal: its code, the field and the value that was rejected. -/
structure ListingError where
  code : String
  field : String
  rejectedValue : String
  deriving DecidableEq, Repr

/-- `Pagination` -/
structure Pagination where
  hasMore : Bool
  cursor : Option String
  totalCount : Nat
  deriving DecidableEq, Repr

/-- `ListCreativesResponse`; a creative stands for the row it is built from. -/
structure ListCreativesResponse where
  totalMatching : Nat
  returned : Nat
  sortApplied : SortField × SortDirection
  pagination : Pagination
  creatives : List Creative
  deriving DecidableEq, Repr

/-- `_cursor_for_offset` -/
def cursorForOffset
    (offset : Nat) : String :=
  String.ofList (['o', 'f', 'f', ':'] ++ Nat.toDigits 10 offset)

/-- The offset of a cursor's characters. -/
def offsetOfDigits : List Char → Option Nat
  | 'o' :: 'f' :: 'f' :: ':' :: digits =>
      if digits ≠ [] ∧ digits.all Char.isDigit = true then some (Nat.ofDigitChars 10 digits 0)
      else none
  | _ => none

/-- `_offset_from_cursor` -/
def offsetFromCursor : Option String → Except ListingError Nat
  | none => .ok 0
  | some cursor =>
      match offsetOfDigits cursor.toList with
      | some offset => .ok offset
      | none => .error ⟨"INVALID_REQUEST", "pagination.cursor", cursor⟩

/-- The arguments the request makes for the query. -/
def queryFilters
    (canonicalAgentUrl : String → String)
    (filters : CreativeFilters) : QueryFilters where
  statuses := filters.statuses
  tags := filters.tags
  tagsAny := filters.tagsAny
  hasVariables := filters.hasVariables
  creativeIds := filters.creativeIds
  formatIds := filters.formatIds.map fun formatId => (canonicalAgentUrl formatId.1, formatId.2)
  createdAfter := filters.createdAfter
  createdBefore := filters.createdBefore
  search := filters.nameContains
  mediaBuyIds := filters.mediaBuyIds.eraseDups
  conceptIds := filters.conceptIds

/-- The sort of a request, with its defaults. -/
def ListCreativesRequest.sortApplied
    (request : ListCreativesRequest) : SortField × SortDirection :=
  (request.sortField.getD .createdDate, request.sortDirection.getD .desc)

/-- The page size of a request: `_DEFAULT_MAX_RESULTS` without one. -/
def ListCreativesRequest.limit
    (request : ListCreativesRequest) : Nat :=
  match request.pagination.maxResults with
  | some maxResults => maxResults.val
  | none => 50

/-- `_list_creatives_impl` -/
def listCreatives
    (canonicalAgentUrl : String → String)
    (library : Library)
    (plan : Plan)
    (tenantId principalId : String)
    (request : ListCreativesRequest) : Except ListingError ListCreativesResponse :=
  match offsetFromCursor request.pagination.cursor with
  | .error refusal => .error refusal
  | .ok offset =>
      match request.filters.hasServed with
      | some served =>
          .error ⟨"UNSUPPORTED_FEATURE", "filters.has_served", if served then "true" else "false"⟩
      | none =>
          let result := getByPrincipal library plan tenantId principalId
            (queryFilters canonicalAgentUrl request.filters) offset request.limit
          let nextOffset := offset + result.creatives.length
          let hasMore := nextOffset < result.totalCount
          .ok
            { totalMatching := result.totalCount
              returned := result.creatives.length
              sortApplied := request.sortApplied
              pagination :=
                { hasMore := hasMore
                  cursor := if hasMore then some (cursorForOffset nextOffset) else none
                  totalCount := result.totalCount }
              creatives := result.creatives }

/-- The request for the page a cursor names. -/
def ListCreativesRequest.page
    (request : ListCreativesRequest)
    (cursor : Option String) : ListCreativesRequest :=
  { request with pagination := { request.pagination with cursor := cursor } }

/-- The answers along the cursors, to the page that has no cursor; nothing when the fuel runs
out before. -/
def walk
    (canonicalAgentUrl : String → String)
    (library : Library)
    (plan : Plan)
    (tenantId principalId : String)
    (request : ListCreativesRequest) :
    Nat → Option String → Option (Except ListingError (List ListCreativesResponse))
  | 0, _ => none
  | fuel + 1, cursor =>
      match listCreatives canonicalAgentUrl library plan tenantId principalId
          (request.page cursor) with
      | .error refusal => some (.error refusal)
      | .ok response =>
          match response.pagination.cursor with
          | none => some (.ok [response])
          | some next =>
              match walk canonicalAgentUrl library plan tenantId principalId request fuel
                  (some next) with
              | none => none
              | some (.error refusal) => some (.error refusal)
              | some (.ok responses) => some (.ok (response :: responses))

end Listing

section Order

theorem nullsLast_trans
    (a b c : Option DateTime)
    (hab : nullsLast a b = true)
    (hbc : nullsLast b c = true) :
    nullsLast a c = true := by
  cases c with
  | none =>
      cases a with
      | none => rfl
      | some a => rfl
  | some c =>
      cases b with
      | none => cases hbc
      | some b =>
          cases a with
          | none => cases hab
          | some a =>
              exact decide_eq_true (le_trans (of_decide_eq_true hab) (of_decide_eq_true hbc))

theorem nullsLast_total
    (a b : Option DateTime) :
    nullsLast a b = true ∨ nullsLast b a = true := by
  cases a with
  | none =>
      cases b with
      | none => exact .inl rfl
      | some b => exact .inr rfl
  | some a =>
      cases b with
      | none => exact .inl rfl
      | some b =>
          rcases le_total a b with h | h
          · exact .inl (decide_eq_true h)
          · exact .inr (decide_eq_true h)

theorem ascending_totalPreorder
    (library : Library)
    (sortBy : SortField) :
    TotalPreorder (ascending library sortBy) := by
  constructor
  · intro a b c hab hbc
    cases sortBy with
    | name =>
        exact decide_eq_true (String.le_trans (of_decide_eq_true hab) (of_decide_eq_true hbc))
    | status =>
        exact decide_eq_true (String.le_trans (of_decide_eq_true hab) (of_decide_eq_true hbc))
    | assignmentCount =>
        exact decide_eq_true (Nat.le_trans (of_decide_eq_true hab) (of_decide_eq_true hbc))
    | updatedDate => exact nullsLast_trans _ _ _ hab hbc
    | createdDate => exact nullsLast_trans _ _ _ hab hbc
  · intro a b
    cases sortBy with
    | name => exact (String.le_total a.name b.name).imp decide_eq_true decide_eq_true
    | status => exact (String.le_total a.status b.status).imp decide_eq_true decide_eq_true
    | assignmentCount => exact (Nat.le_total _ _).imp decide_eq_true decide_eq_true
    | updatedDate => exact nullsLast_total _ _
    | createdDate => exact nullsLast_total _ _

theorem orderBy_totalPreorder
    (library : Library)
    (sortBy : SortField)
    (sortOrder : SortDirection) :
    TotalPreorder (orderBy library sortBy sortOrder) := by
  have hascending := ascending_totalPreorder library sortBy
  cases sortOrder with
  | asc => exact hascending
  | desc =>
      exact ⟨fun a b c hab hbc => hascending.trans c b a hbc hab,
        fun a b => hascending.total b a⟩

end Order

section Cursors

theorem offsetFromCursor_cursorForOffset
    (offset : Nat) :
    offsetFromCursor (some (cursorForOffset offset)) = .ok offset := by
  have hdigits : ∀ c ∈ Nat.toDigits 10 offset, c.isDigit = true := fun c hc =>
    Nat.isDigit_of_mem_toDigits (by decide) (by decide) hc
  have hsome : Nat.toDigits 10 offset ≠ [] := Nat.toDigits_ne_nil
  have hread : offsetOfDigits (cursorForOffset offset).toList = some offset := by
    rw [cursorForOffset, String.toList_ofList]
    simp only [List.cons_append, List.nil_append, offsetOfDigits]
    rw [if_pos ⟨hsome, List.all_eq_true.mpr hdigits⟩, Nat.ofDigitChars_ten_toDigits]
  rw [offsetFromCursor, hread]

end Cursors

section Walks

variable (canonicalAgentUrl : String → String) (library : Library) (plan : Plan)
variable (tenantId principalId : String) (request : ListCreativesRequest)

/-- The rows the request's statement matches. -/
def requestedRows : List Creative :=
  matching library tenantId principalId (queryFilters canonicalAgentUrl request.filters)

/-- The arrangement of those rows that the query at an offset finds. -/
def arrangement
    (offset : Nat) : List Creative :=
  plan offset request.limit
    (requestedRows canonicalAgentUrl library tenantId principalId request)

/-- The window an answer shows. -/
def window
    (offset : Nat) : List Creative :=
  ((arrangement canonicalAgentUrl library plan tenantId principalId request offset).drop
    offset).take request.limit

/-- The answer for the page at an offset. -/
def answerAt
    (offset : Nat) : ListCreativesResponse :=
  let creatives := window canonicalAgentUrl library plan tenantId principalId request offset
  let total := (requestedRows canonicalAgentUrl library tenantId principalId request).length
  { totalMatching := total
    returned := creatives.length
    sortApplied := request.sortApplied
    pagination :=
      { hasMore := offset + creatives.length < total
        cursor :=
          if offset + creatives.length < total then
            some (cursorForOffset (offset + creatives.length))
          else none
        totalCount := total }
    creatives := creatives }

variable {canonicalAgentUrl library plan tenantId principalId request}

theorem listCreatives_page
    (hserved : request.filters.hasServed = none)
    {cursor : Option String}
    {offset : Nat}
    (hcursor : offsetFromCursor cursor = .ok offset) :
    listCreatives canonicalAgentUrl library plan tenantId principalId (request.page cursor)
      =
    .ok (answerAt canonicalAgentUrl library plan tenantId principalId request offset) := by
  have hpage : offsetFromCursor (request.page cursor).pagination.cursor = .ok offset := hcursor
  have hfilters : (request.page cursor).filters.hasServed = none := hserved
  rw [listCreatives, hpage]
  dsimp only
  rw [hfilters]
  simp only [decide_eq_true_eq]
  rfl

/-- A walk shows the windows of the arrangements its queries find, and each of its answers
counts the rows of the statement. -/
theorem walk_eq
    (hserved : request.filters.hasServed = none)
    (hlimit : 0 < request.limit)
    (hlength : ∀ o, (arrangement canonicalAgentUrl library plan tenantId principalId request
      o).length = (requestedRows canonicalAgentUrl library tenantId principalId request).length)
    {fuel offset : Nat}
    {cursor : Option String}
    (hcursor : offsetFromCursor cursor = .ok offset)
    (hfuel : (requestedRows canonicalAgentUrl library tenantId principalId request).length - offset
      < fuel) :
    ∃ responses,
      walk canonicalAgentUrl library plan tenantId principalId request fuel cursor
          = some (.ok responses)
        ∧ responses.map ListCreativesResponse.creatives
            = pagesFrom (arrangement canonicalAgentUrl library plan tenantId principalId request)
                request.limit
                (requestedRows canonicalAgentUrl library tenantId principalId request).length
                fuel offset
        ∧ responses ≠ []
        ∧ ∀ response ∈ responses, response.pagination.totalCount
            = (requestedRows canonicalAgentUrl library tenantId principalId request).length := by
  induction fuel generalizing cursor offset with
  | zero =>
      exact absurd hfuel (Nat.not_lt_zero _)
  | succ fuel ih =>
      let page := window canonicalAgentUrl library plan tenantId principalId request offset
      have hsize : page.length = min request.limit
          ((requestedRows canonicalAgentUrl library tenantId principalId request).length
            - offset) := Paging.length_window (hlength offset) offset
      rw [walk, listCreatives_page hserved hcursor, pagesFrom]
      dsimp only
      by_cases hmore : offset + page.length
          < (requestedRows canonicalAgentUrl library tenantId principalId request).length
      · have hnext : (answerAt canonicalAgentUrl library plan tenantId principalId request
            offset).pagination.cursor = some (cursorForOffset (offset + page.length)) :=
          if_pos hmore
        obtain ⟨responses, hwalk, hpages, -, htotals⟩ :=
          ih (offsetFromCursor_cursorForOffset (offset + page.length)) (by omega)
        rw [hnext]
        dsimp only
        rw [hwalk]
        refine ⟨_, rfl, ?_, List.cons_ne_nil _ _, ?_⟩
        · rw [List.map_cons, hpages]
          exact (if_pos hmore).symm
        · intro response hresponse
          rcases List.mem_cons.mp hresponse with rfl | hresponse
          · rfl
          · exact htotals response hresponse
      · have hlast : (answerAt canonicalAgentUrl library plan tenantId principalId request
            offset).pagination.cursor = none := if_neg hmore
        rw [hlast]
        refine ⟨_, rfl, ?_, List.cons_ne_nil _ _, ?_⟩
        · exact (if_neg hmore).symm
        · intro response hresponse
          rw [List.mem_singleton.mp hresponse]
          rfl

end Walks

section Rows

variable (library : Library)

/-- The creative satisfies the filters: its columns do, and where media buys are named one of
its assignments is to one of them. -/
def satisfies
    (filters : QueryFilters)
    (row : Creative) : Bool :=
  filters.mediaBuyIds = []
    || (joinedAssignments library filters row).any fun assignment => AssignmentOf row assignment

/-- The caller's creatives that satisfy the filters. -/
def satisfying
    (tenantId principalId : String)
    (filters : QueryFilters) : List Creative :=
  (candidates library tenantId principalId filters).filter (satisfies library filters)

/-- The join keeps one row of a creative: at most one assignment with its id is to one of the
media buys, and that one is its own. -/
def JoinedOnce
    (filters : QueryFilters)
    (row : Creative) : Prop :=
  filters.mediaBuyIds ≠ [] →
    (joinedAssignments library filters row).length ≤ 1
      ∧ ∀ assignment ∈ joinedAssignments library filters row, AssignmentOf row assignment

variable {library}

theorem rowsOf_eq_iff
    (filters : QueryFilters)
    (row : Creative) :
    rowsOf library filters row = (if satisfies library filters row = true then 1 else 0)
      ↔
    JoinedOnce library filters row := by
  rw [rowsOf, satisfies, JoinedOnce]
  by_cases hnone : filters.mediaBuyIds = []
  · simp [hnone]
  · rw [if_neg hnone]
    cases hjoined : joinedAssignments library filters row with
    | nil => simp [hnone]
    | cons assignment others =>
        cases others with
        | nil => simp [hnone]
        | cons other others =>
            have hmany : 1 < (assignment :: other :: others).length := by simp
            constructor
            · intro hcount
              split at hcount
              · omega
              · omega
            · intro honce
              exact absurd (honce hnone).1 (by omega)

theorem nodup_candidates
    (tenantId principalId : String)
    (filters : QueryFilters) :
    (candidates library tenantId principalId filters).Nodup := by
  refine List.Nodup.filter _ (library.creatives.unique.imp ?_)
  rintro row row' hkeys rfl
  exact hkeys _ rfl rfl

theorem count_flatMap_replicate
    {α : Type}
    [DecidableEq α]
    {rows : List α}
    (hrows : rows.Nodup)
    (times : α → Nat)
    (a : α) :
    (rows.flatMap fun b => List.replicate (times b) b).count a
      = if a ∈ rows then times a else 0 := by
  induction rows with
  | nil =>
      rfl
  | cons b rows ih =>
      rw [List.nodup_cons] at hrows
      rw [List.flatMap_cons, List.count_append, ih hrows.2, List.count_replicate]
      by_cases hab : b = a
      · subst hab
        simp [hrows.1]
      · simp [hab, Ne.symm hab]

/-- The statement matches every satisfying creative once exactly where the join keeps one row
of each candidate. -/
theorem matching_perm_iff
    (tenantId principalId : String)
    (filters : QueryFilters) :
    (matching library tenantId principalId filters).Perm
        (satisfying library tenantId principalId filters)
      ↔
    ∀ row ∈ candidates library tenantId principalId filters, JoinedOnce library filters row := by
  have hnodup : (candidates library tenantId principalId filters).Nodup :=
    nodup_candidates tenantId principalId filters
  have hsatisfying (row : Creative) (hrow : row ∈ candidates library tenantId principalId filters) :
      (satisfying library tenantId principalId filters).count row
        = if satisfies library filters row = true then 1 else 0 := by
    by_cases hsat : satisfies library filters row = true
    · rw [if_pos hsat, satisfying, List.count_filter hsat]
      exact List.count_eq_one_of_mem hnodup hrow
    · rw [if_neg hsat]
      exact List.count_eq_zero.mpr fun hmem => hsat (List.of_mem_filter hmem)
  rw [List.perm_iff_count]
  constructor
  · intro hcounts row hrow
    rw [← rowsOf_eq_iff, ← hsatisfying row hrow, ← hcounts row, matching,
      count_flatMap_replicate hnodup, if_pos hrow]
  · intro honce row
    rw [matching, count_flatMap_replicate hnodup]
    by_cases hrow : row ∈ candidates library tenantId principalId filters
    · rw [if_pos hrow, hsatisfying row hrow, (rowsOf_eq_iff filters row).mpr (honce row hrow)]
    · rw [if_neg hrow]
      exact (List.count_eq_zero.mpr fun hmem => hrow (List.mem_of_mem_filter hmem)).symm

end Rows

section Laws

variable (canonicalAgentUrl : String → String) (library : Library)
variable (tenantId principalId : String) (request : ListCreativesRequest)

/-- The comparison of the request's `ORDER BY` clause. -/
def requestedOrder : Creative → Creative → Bool :=
  orderBy library request.sortApplied.1 request.sortApplied.2

/-- The caller's creatives the request asks for. -/
def requestedCreatives : List Creative :=
  satisfying library tenantId principalId (queryFilters canonicalAgentUrl request.filters)

/-- A database that orders the rows as the statement says, whatever it does with ties. -/
def Lawful
    (plan : Plan) : Prop :=
  ∀ offset, Arranges (requestedOrder library request)
    (requestedRows canonicalAgentUrl library tenantId principalId request)
    (arrangement canonicalAgentUrl library plan tenantId principalId request offset)

/-- The request is not refused: its first page is answered. -/
def Answered
    (plan : Plan) : Prop :=
  ∃ response,
    listCreatives canonicalAgentUrl library plan tenantId principalId (request.page none)
      = .ok response

/-- The walk along the cursors ends, shows every requested creative once and nothing else, and
counts them on every page. -/
def ShowsOnce
    (plan : Plan) : Prop :=
  ∃ enough, ∀ fuel, enough ≤ fuel → ∃ responses,
    walk canonicalAgentUrl library plan tenantId principalId request fuel none
        = some (.ok responses)
      ∧ (responses.map ListCreativesResponse.creatives).flatten.Perm
          (requestedCreatives canonicalAgentUrl library tenantId principalId request)
      ∧ ∀ response ∈ responses, response.pagination.totalCount
          = (requestedCreatives canonicalAgentUrl library tenantId principalId request).length

variable {canonicalAgentUrl library tenantId principalId request}

theorem limit_pos :
    0 < request.limit := by
  rw [ListCreativesRequest.limit]
  cases request.pagination.maxResults with
  | none => decide
  | some maxResults => exact maxResults.property.1

theorem lawful_mergeSort :
    Lawful canonicalAgentUrl library tenantId principalId request
      fun _ _ rows => rows.mergeSort (requestedOrder library request) :=
  fun _ => Paging.arranges_mergeSort (orderBy_totalPreorder library _ _) _

theorem hasServed_of_answered
    {plan : Plan}
    (hanswered : Answered canonicalAgentUrl library tenantId principalId request plan) :
    request.filters.hasServed = none := by
  obtain ⟨response, hresponse⟩ := hanswered
  cases hserved : request.filters.hasServed with
  | none => rfl
  | some served =>
      have hrefused : (request.page none).filters.hasServed = some served := hserved
      have hstart : offsetFromCursor (request.page none).pagination.cursor = .ok 0 := rfl
      rw [listCreatives, hstart] at hresponse
      dsimp only at hresponse
      rw [hrefused] at hresponse
      cases hresponse

theorem answered_of_hasServed
    (hserved : request.filters.hasServed = none)
    (plan : Plan) :
    Answered canonicalAgentUrl library tenantId principalId request plan :=
  ⟨_, listCreatives_page hserved rfl⟩

theorem pages_of_showsOnce
    (hserved : request.filters.hasServed = none)
    {plan : Plan}
    (hlawful : Lawful canonicalAgentUrl library tenantId principalId request plan)
    (hshows : ShowsOnce canonicalAgentUrl library tenantId principalId request plan) :
    ∃ fuel, (requestedRows canonicalAgentUrl library tenantId principalId request).length < fuel
      ∧ (pagesFrom (arrangement canonicalAgentUrl library plan tenantId principalId request)
          request.limit
          (requestedRows canonicalAgentUrl library tenantId principalId request).length
          fuel 0).flatten.Perm
            (requestedCreatives canonicalAgentUrl library tenantId principalId request)
      ∧ (requestedRows canonicalAgentUrl library tenantId principalId request).length
          = (requestedCreatives canonicalAgentUrl library tenantId principalId request).length := by
  obtain ⟨enough, hshows⟩ := hshows
  let fuel := enough
    + ((requestedRows canonicalAgentUrl library tenantId principalId request).length + 1)
  have hfuel : (requestedRows canonicalAgentUrl library tenantId principalId request).length - 0
      < fuel := by omega
  have hstart : offsetFromCursor none = .ok 0 := rfl
  obtain ⟨responses, hwalk, hshown, htotals⟩ := hshows fuel (Nat.le_add_right _ _)
  obtain ⟨pages, hpages, hwindows, hsome, hcounts⟩ := walk_eq hserved limit_pos
    (fun o => (hlawful o).perm.length_eq) hstart hfuel
  cases hwalk.symm.trans hpages
  refine ⟨fuel, by omega, by rwa [← hwindows], ?_⟩
  obtain ⟨response, hresponse⟩ := List.exists_mem_of_ne_nil _ hsome
  exact (hcounts response hresponse).symm.trans (htotals response hresponse)

theorem rows_perm_of_showsOnce
    (hserved : request.filters.hasServed = none)
    (hshows : ∀ plan, Lawful canonicalAgentUrl library tenantId principalId request plan →
      ShowsOnce canonicalAgentUrl library tenantId principalId request plan) :
    (requestedRows canonicalAgentUrl library tenantId principalId request).Perm
      (requestedCreatives canonicalAgentUrl library tenantId principalId request) := by
  obtain ⟨fuel, hfuel, hshown, -⟩ := pages_of_showsOnce hserved lawful_mergeSort
    (hshows _ lawful_mergeSort)
  have hpos : 0 < request.limit := limit_pos
  have hlength : ((requestedRows canonicalAgentUrl library tenantId principalId request).mergeSort
      (requestedOrder library request)).length
        = (requestedRows canonicalAgentUrl library tenantId principalId request).length :=
    List.length_mergeSort _
  have hflat := Paging.flatten_pagesFrom_const hpos
    (fun o (_ : 0 ≤ o) => show arrangement canonicalAgentUrl library
        (fun _ _ rows => rows.mergeSort (requestedOrder library request)) tenantId principalId
          request o = _ from rfl)
    (show _ - 0 < fuel by rw [hlength]; omega)
  rw [hlength, List.drop_zero] at hflat
  rw [hflat] at hshown
  exact (List.mergeSort_perm _ _).symm.trans hshown

/-- Along the cursors of a request that is answered, every creative of the caller that satisfies
the filters is shown once and counted on every page, whatever the database does with ties,
exactly where the join keeps one row of each candidate and no group of tied creatives stands
across a page boundary. -/
theorem listing_laws
    (canonicalAgentUrl : String → String)
    (library : Library)
    (tenantId principalId : String)
    (request : ListCreativesRequest) :
    (∀ plan, Lawful canonicalAgentUrl library tenantId principalId request plan →
        Answered canonicalAgentUrl library tenantId principalId request plan →
          ShowsOnce canonicalAgentUrl library tenantId principalId request plan)
      ↔
    (request.filters.hasServed = none →
      (∀ row ∈ candidates library tenantId principalId
            (queryFilters canonicalAgentUrl request.filters),
          JoinedOnce library (queryFilters canonicalAgentUrl request.filters) row)
        ∧ ∀ page, ¬ Straddled (requestedOrder library request)
            (requestedCreatives canonicalAgentUrl library tenantId principalId request)
            (page * request.limit)) := by
  have horder : TotalPreorder (requestedOrder library request) := orderBy_totalPreorder _ _ _
  constructor
  · intro hall hserved
    have hshows : ∀ plan, Lawful canonicalAgentUrl library tenantId principalId request plan →
        ShowsOnce canonicalAgentUrl library tenantId principalId request plan :=
      fun plan hlawful => hall plan hlawful (answered_of_hasServed hserved plan)
    have hperm := rows_perm_of_showsOnce hserved hshows
    refine ⟨(matching_perm_iff _ _ _).mp hperm, ?_⟩
    intro page hstraddled
    have hnodup : (requestedRows canonicalAgentUrl library tenantId principalId request).Nodup :=
      hperm.nodup_iff.mpr ((nodup_candidates _ _ _).filter _)
    obtain ⟨arrange, harrange, hrepeats⟩ := Paging.exists_walk_repeats horder limit_pos hnodup
      ((Paging.straddled_congr hperm _).mpr hstraddled)
    have hlawful : Lawful canonicalAgentUrl library tenantId principalId request
        fun offset _ _ => arrange offset := harrange
    obtain ⟨fuel, hfuel, hshown, -⟩ := pages_of_showsOnce hserved hlawful (hshows _ hlawful)
    exact hrepeats fuel hfuel (hshown.trans hperm.symm)
  · intro hclear plan hlawful hanswered
    have hserved := hasServed_of_answered hanswered
    obtain ⟨honce, hclear⟩ := hclear hserved
    have hperm : (requestedRows canonicalAgentUrl library tenantId principalId request).Perm
        (requestedCreatives canonicalAgentUrl library tenantId principalId request) :=
      (matching_perm_iff _ _ _).mpr honce
    have hrows : ∀ page, ¬ Straddled (requestedOrder library request)
        (requestedRows canonicalAgentUrl library tenantId principalId request)
        (page * request.limit) :=
      fun page h => hclear page ((Paging.straddled_congr hperm _).mp h)
    refine ⟨(requestedRows canonicalAgentUrl library tenantId principalId request).length + 1, ?_⟩
    intro fuel hfuel
    have hstart : offsetFromCursor none = .ok 0 := rfl
    obtain ⟨responses, hwalk, hwindows, -, hcounts⟩ := walk_eq hserved limit_pos
      (fun o => (hlawful o).perm.length_eq) hstart
      (show _ - 0 < fuel from Nat.lt_of_lt_of_le (Nat.lt_succ_self _) hfuel)
    refine ⟨responses, hwalk, ?_, fun response hresponse => ?_⟩
    · rw [hwindows]
      exact (Paging.flatten_pagesFrom_perm horder limit_pos hlawful hrows hfuel).trans hperm
    · rw [hcounts response hresponse, hperm.length_eq]

/-- A buy with two packages that both carry one creative. -/
def twicePlaced : Library where
  creatives :=
    { rows := [⟨"banner", "t", "p", "Banner", "https://agent", "display", "approved", {}, none,
        none⟩]
      unique := by simp }
  assignments :=
    { rows := [⟨"t", "p", "buy", "one", "banner", 100, none⟩,
        ⟨"t", "p", "buy", "two", "banner", 100, none⟩]
      unique := by decide }
  references := by decide

/-- The creatives of that buy. -/
def ofBuy : ListCreativesRequest where
  filters := { mediaBuyIds := ["buy"] }

/-- The creative of two packages is counted, and shown, twice. -/
theorem listing_repeats :
    ¬ ∀ plan, Lawful id twicePlaced "t" "p" ofBuy plan →
      Answered id twicePlaced "t" "p" ofBuy plan → ShowsOnce id twicePlaced "t" "p" ofBuy plan := by
  intro hshows
  have hserved : ofBuy.filters.hasServed = none := rfl
  have hperm := rows_perm_of_showsOnce hserved fun plan hlawful =>
    hshows plan hlawful (answered_of_hasServed hserved plan)
  exact absurd hperm.length_eq (by decide +kernel)

end Laws

end CreativeListing
end SalesAgent
