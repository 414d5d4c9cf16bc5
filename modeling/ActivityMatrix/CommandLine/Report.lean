import ActivityMatrix.CommandLine.Workspace

/-!
# Reports

What commands say, as marked-up lines and tables: violations, diagnostics, levels, a summary of
artifacts, and the settings. Texts that come from a matrix are escaped where they stand in a
sentence, and read as markup where they stand in a cell of a table.
-/

namespace ActivityMatrix.CommandLine.Report

open Console

/-- A matrix that could not be loaded. -/
def loadFailure (error : Matrix.LoadError) : List String :=
  let shown := escape error.message
  [s!"[bold red]Error: {shown}[/bold red]"]

def violation (notice : Notice) : List String :=
  let place := escape ("[" ++ notice.code ++ "] " ++ notice.location)
  [s!"\n[bold red]Validation failed[/bold red] {place}", "  " ++ escape notice.message]

def checking (path : Path) : String :=
  let shown := path.text
  s!"\n[bold cyan]Validating ARM: {shown}[/bold cyan]\n"

/-- A matrix that breaks no rule, by the order of its activities. -/
def valid (order : List String) : List String :=
  let count := toString order.length
  let shown := " → ".intercalate order
  [s!"  Activities: {count}", s!"  Order: {shown}", "\n[bold green]ARM is valid[/bold green]"]

/-- A diagnostic of a synthesis. -/
def diagnostic (d : Diagnostic) : String :=
  let place := match d.location with
    | some location => if location.isEmpty then "" else location ++ ": "
    | none => ""
  "  " ++ escape ("[" ++ d.code ++ "] " ++ place ++ d.message)

def diagnostics (found : List Diagnostic) : List String :=
  if found.isEmpty then []
  else "\n[bold yellow]Diagnostics:[/bold yellow]" :: found.map diagnostic

def wrote (path : Path) : String :=
  let shown := path.text
  s!"[green]Wrote {shown}[/green]"

/-- What came of handing a model on to the store. -/
def saved (path : Path) (wasSaved : Bool) : String :=
  let shown := path.text
  if wasSaved then s!"[green]Saved to {shown}[/green]"
  else "[yellow]Declare store unavailable; model not saved[/yellow]"

def published (url : String) (wasPublished : Bool) : String :=
  if wasPublished then s!"[green]Published to {url}[/green]"
  else "[yellow]Declare modeler unreachable; model not published[/yellow]"

/-- The activities in order with their levels and what follows them directly. -/
def layers (strategy : LevelStrategy) (relations : RelationSets) (levels : Levels) : Sheet where
  title := "Layers (" ++ strategy.name ++ ")"
  heads := ["#", "Activity", "Level", "Direct successors"]
  rows := relations.order.zipIdx.map fun (activity, index) =>
    let successors := ", ".intercalate (relations.directSuccessors activity)
    [toString index, activity, toString (levels.level activity),
      if successors.isEmpty then "[dim]-[/dim]" else successors]

/-- The artifacts of a matrix in numbers. -/
def summary (t : Artifacts) : Sheet where
  title := "Translation Summary"
  heads := ["Metric", "Value"]
  rows :=
    [["Activities", toString t.relations.activities.length],
     ["Flows", toString t.synthesis.graph.flows.length],
     ["Gateways", toString t.synthesis.graph.gateways.length],
     ["Declare constraints", toString t.declared.model.constraints.length],
     ["Unmapped pairs", toString t.declared.unmapped.length]]

/-- The settings: those of the artifacts above those of the surroundings, with an empty row
between them. -/
def configuration (settings : Settings) : Sheet where
  title := "armflow Configuration"
  heads := ["Setting", "Value"]
  rows :=
    let shown := settings.entries.map fun (name, value) =>
      [name, if name == "declare_store_url" && value.isEmpty then "[dim]<not set>[/dim]" else value]
    let (first, second) := shown.splitAt 4
    first ++ ["", ""] :: second

/-- How the commands are called. -/
def usage : String :=
  "\n".intercalate
    ["Usage:",
     "  validate FILE [--activities a,b,c]",
     "  layers FILE",
     "  bpmn FILE [--output FILE]",
     "  declare FILE [--output FILE] [--save]",
     "  translate FILE [--output-dir DIRECTORY]",
     "  config show"]

end ActivityMatrix.CommandLine.Report
