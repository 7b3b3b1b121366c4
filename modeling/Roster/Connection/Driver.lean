/-
**Drivers of databases.**

The address of a database begins with its scheme. The two plain schemes are replaced so that the
asynchronous driver is used; any other address is left alone. A driver is known by the kind of its database,
which may stand alone, and by a name behind it; most drivers need a package that is not there.

* `Connection.forDriver` — the address for the asynchronous driver.
* `Connection.Driver.find?` — whether a driver can be used.
-/

import Roster.Text.Replace

namespace Roster.Connection

/-- The scheme of the asynchronous driver. -/
def driverScheme : String := "postgresql+psycopg://"

/-- The scheme that names no driver. -/
def plainScheme : String := "postgresql://"

/-- The same scheme in short. -/
def shortScheme : String := "postgres://"

/-- The address for the asynchronous driver: a plain scheme at the beginning is replaced. -/
def forDriver (address : String) : String :=
  if Text.beginsWith plainScheme address then Text.replaceFirst plainScheme driverScheme address
  else if Text.beginsWith shortScheme address then Text.replaceFirst shortScheme driverScheme address
  else address

/-- Whether a driver can be used. -/
inductive Driver where
  | usable
  /-- The driver lacks a package. -/
  | lacking (package : String)
  /-- The driver is there, but cannot wait without blocking. -/
  | blocking (name : String)
deriving DecidableEq, Repr, Inhabited

namespace Driver

/-- The drivers of a kind of database that lack a package, the first of which the kind alone stands for. -/
def lackingDrivers (kind : String) : List (String × String) → List (String × Driver)
  | [] => []
  | (name, package) :: rest =>
    (kind, .lacking package)
      :: ((name, package) :: rest).map fun driver => (kind ++ "+" ++ driver.1, .lacking driver.2)

/-- The further drivers of the two kinds of database that share them, with their packages. -/
def sharedPackages : List (String × String) :=
  [("mysqldb", "MySQLdb"), ("pymysql", "pymysql"), ("aiomysql", "aiomysql"), ("asyncmy", "asyncmy"),
    ("cymysql", "cymysql"), ("mariadbconnector", "mariadb"), ("mysqlconnector", "mysql"),
    ("pyodbc", "pyodbc")]

/-- All drivers. -/
def all : List (String × Driver) :=
  [("postgresql", .usable), ("postgresql+psycopg", .usable), ("postgresql+psycopg_async", .usable),
    ("postgresql+asyncpg", .lacking "asyncpg"), ("postgresql+pg8000", .lacking "pg8000"),
    ("postgresql+psycopg2", .lacking "psycopg2"),
    ("postgresql+psycopg2cffi", .lacking "psycopg2cffi"),
    ("sqlite", .blocking "pysqlite"), ("sqlite+pysqlite", .blocking "pysqlite"),
    ("sqlite+aiosqlite", .usable)]
    ++ lackingDrivers "mysql" sharedPackages
    ++ lackingDrivers "mariadb" sharedPackages
    ++ lackingDrivers "oracle" [("oracledb", "oracledb"), ("cx_oracle", "cx_Oracle")]
    ++ lackingDrivers "mssql" [("pyodbc", "pyodbc"), ("pymssql", "pymssql"), ("aioodbc", "aioodbc")]

/-- What is known of a driver. -/
def find? (name : String) : Option Driver := (all.find? (·.1 = name)).map (·.2)

end Driver

end Roster.Connection
