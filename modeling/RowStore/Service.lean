namespace RowStore.Service

def name : String := "memdb"

def version : String := "0.1.0"

end RowStore.Service
