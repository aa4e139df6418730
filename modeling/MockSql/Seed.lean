/-
# The built-in seed

Three example databases, which a server starts with unless it is given others.
-/

import MockSql.Server

namespace MockSql.Seed

/-- A column of the seed. -/
def column (name type : String) (nullable : Bool) (key : String) (default : Json)
    (extra : String) : Column :=
  ⟨[("name", .text name), ("type", .text type), ("null", .bool nullable), ("key", .text key),
    ("default", default), ("extra", .text extra)]⟩

/-- A numbered primary key. -/
def keyColumn (name type : String) : Column :=
  column name type false primaryLabel .null autoIncrementMark

/-- A column that has to be set and is no key. -/
def plainColumn (name type : String) : Column :=
  column name type false "" .null ""

/-- A column that has to be set and is a unique key. -/
def uniqueColumn (name type : String) : Column :=
  column name type false "UNI" .null ""

/-- A table of the seed with the usual engine and collation. -/
def table (name : String) (schema : List Column) (rows : List Row) : Table where
  name := name
  rowCount := rows.length
  engine := Table.defaultEngine
  collation := Table.defaultCollation
  schema := schema
  rows := rows

/-- The users of the demo database. -/
def users : Table :=
  let row (id : Int) (name email created : String) : Row :=
    [("id", .int id), ("name", .text name), ("email", .text email), ("created_at", .text created)]
  table "users"
    [keyColumn "id" "int(11)", plainColumn "name" "varchar(255)",
      uniqueColumn "email" "varchar(255)",
      column "created_at" "timestamp" true "" (.text "CURRENT_TIMESTAMP") ""]
    [row 1 "John Doe" "john@example.com" "2025-01-15 10:30:00",
      row 2 "Jane Smith" "jane@example.com" "2025-01-16 14:20:00",
      row 3 "Bob Johnson" "bob@example.com" "2025-01-17 09:15:00",
      row 4 "Alice Brown" "alice@example.com" "2025-01-18 16:45:00",
      row 5 "Charlie Wilson" "charlie@example.com" "2025-01-19 11:30:00"]

/-- The products of the demo database; prices are in hundredths. -/
def products : Table :=
  let row (id : Int) (name : String) (price : Nat) (stock : Int) : Row :=
    [("id", .int id), ("name", .text name), ("price", .double (Double.ofDecimal false price (-2))),
      ("stock", .int stock)]
  table "products"
    [keyColumn "id" "int(11)", plainColumn "name" "varchar(255)",
      plainColumn "price" "decimal(10,2)", column "stock" "int(11)" false "" (.text "0") ""]
    [row 1 "Laptop" 99999 15, row 2 "Smartphone" 69999 25, row 3 "Headphones" 19999 50]

/-- The employees of the company database. -/
def employees : Table :=
  let row (id : Int) (first last : String) (department : Int) : Row :=
    [("emp_id", .int id), ("first_name", .text first), ("last_name", .text last),
      ("department_id", .int department)]
  let department := column "department_id" "int(11)" true "MUL" .null ""
  table "employees"
    [keyColumn "emp_id" "int(11)", plainColumn "first_name" "varchar(50)",
      plainColumn "last_name" "varchar(50)",
      ⟨department.attributes ++
        [("references", .object [("table", .text "departments"), ("column", .text "dept_id")])]⟩]
    [row 101 "Sarah" "Connor" 1, row 102 "Kyle" "Reese" 2, row 103 "Miles" "Dyson" 1,
      row 104 "Peter" "Silberman" 3]

/-- The departments of the company database. -/
def departments : Table :=
  let row (id : Int) (name : String) : Row := [("dept_id", .int id), ("dept_name", .text name)]
  table "departments"
    [keyColumn "dept_id" "int(11)", uniqueColumn "dept_name" "varchar(100)"]
    [row 1 "Engineering", row 2 "Security", row 3 "Psychology"]

/-- The logs of the system database. -/
def logs : Table :=
  let row (id : Int) (level message time : String) : Row :=
    [("log_id", .int id), ("level", .text level), ("message", .text message),
      ("log_time", .text time)]
  let logs := table "logs"
    [keyColumn "log_id" "bigint(20)", plainColumn "level" "varchar(10)",
      plainColumn "message" "text", plainColumn "log_time" "datetime"]
    [row 1 "INFO" "Server started" "2025-07-20 08:00:00",
      row 2 "WARN" "Disk space low" "2025-07-20 09:30:00"]
  { logs with engine := "MyISAM", collation := "utf8_general_ci" }

/-- The built-in seed. -/
def server : Server :=
  [("demo_db", [("users", users), ("products", products)]),
    ("company_db", [("employees", employees), ("departments", departments)]),
    ("system_db", [("logs", logs)])]

/-- A store that starts from the built-in seed. -/
def store : Store := .ofSeed server

end MockSql.Seed
