namespace RowStore.Endpoint

/-- The last four tell about the service itself. -/
inductive Route
  | health
  | stats
  | tables
  | execute
  | executeBatch
  | schema
  | manual
  | authorization
  | reference
  deriving DecidableEq

namespace Route

def all : List Route :=
  [health, stats, tables, execute, executeBatch, schema, manual, authorization, reference]

def path : Route → String
  | health => "/health"
  | stats => "/stats"
  | tables => "/tables"
  | execute => "/execute"
  | executeBatch => "/execute/batch"
  | schema => "/openapi.json"
  | manual => "/docs"
  | authorization => "/docs/oauth2-redirect"
  | reference => "/redoc"

def methods : Route → List String
  | health | stats | tables => ["GET"]
  | execute | executeBatch => ["POST"]
  | schema | manual | authorization | reference => ["GET", "HEAD"]

/-- A target is the path of a route even with one line end behind it. -/
def isAt (route : Route) (target : List Char) : Bool :=
  target = route.path.toList || target = route.path.toList ++ ['\n']

def ofTarget? (target : List Char) : Option Route := all.find? (·.isAt target)

def withoutSlashes (target : List Char) : List Char :=
  (target.reverse.dropWhile (· = '/')).reverse

end Route

end RowStore.Endpoint
